import KrustyKms.Common.JsonText

/-!
# URLs in error messages

`redactUrl` keeps the scheme, the host and the port of a URL, where these are valid, and nothing
else of it. Texts are lists of characters.
-/

namespace KrustyKms.RedactUrl

/-! ## The splits of the standard library -/

def splitOnce (sep : List Char) : List Char → Option (List Char × List Char)
  | [] => if sep = [] then some ([], []) else none
  | c :: rest =>
    if sep <+: c :: rest then some ([], (c :: rest).drop sep.length)
    else (splitOnce sep rest).map fun parts => (c :: parts.1, parts.2)

def rsplitOnce (sep : Char) (text : List Char) : Option (List Char × List Char) :=
  (splitOnce [sep] text.reverse).map fun parts => (parts.2.reverse, parts.1.reverse)

variable {sep : Char} {text before after : List Char}

lemma splitOnce_eq_some {sep text before after : List Char}
    (h : splitOnce sep text = some (before, after)) : text = before ++ sep ++ after := by
  induction text generalizing before with
  | nil =>
    unfold splitOnce at h
    split_ifs at h with hs
    cases h
    rw [hs]
    rfl
  | cons c rest ih =>
    unfold splitOnce at h
    split_ifs at h with hs
    · cases h
      obtain ⟨after, ha⟩ := hs
      rw [← ha, List.drop_left]
      rfl
    · obtain ⟨parts, hp, h⟩ := Option.map_eq_some_iff.mp h
      cases h
      rw [ih hp]
      rfl

lemma splitOnce_eq_none {sep text : List Char} (h : ¬ sep <:+: text) :
    splitOnce sep text = none := by
  cases hs : splitOnce sep text with
  | none => rfl
  | some parts => exact absurd ⟨parts.1, parts.2, (splitOnce_eq_some hs).symm⟩ h

lemma splitOnce_char (h : sep ∉ before) :
    splitOnce [sep] (before ++ sep :: after) = some (before, after) := by
  induction before with
  | nil =>
    show splitOnce [sep] (sep :: after) = _
    rw [splitOnce, if_pos ⟨after, rfl⟩]
    rfl
  | cons c rest ih =>
    rw [List.mem_cons, not_or] at h
    have hs : ¬ [sep] <+: c :: (rest ++ sep :: after) := by
      rw [List.cons_prefix_cons]
      exact fun hs => h.1 hs.1
    rw [List.cons_append, splitOnce, if_neg hs, ih h.2]
    rfl

lemma rsplitOnce_append (h : sep ∉ after) :
    rsplitOnce sep (before ++ sep :: after) = some (before, after) := by
  have hs : sep ∉ after.reverse := by rwa [List.mem_reverse]
  rw [rsplitOnce, List.reverse_append, List.reverse_cons, List.append_assoc,
    List.singleton_append, splitOnce_char hs]
  simp

lemma rsplitOnce_eq_none (h : sep ∉ text) : rsplitOnce sep text = none := by
  rw [rsplitOnce, splitOnce_eq_none]
  · rfl
  · intro hs
    exact h (List.mem_reverse.mp (hs.subset (.head _)))

lemma rsplitOnce_eq_some (h : rsplitOnce sep text = some (before, after)) :
    text = before ++ sep :: after := by
  obtain ⟨parts, hp, h⟩ := Option.map_eq_some_iff.mp h
  cases h
  have ht := congrArg List.reverse (splitOnce_eq_some hp)
  simpa using ht

/-! ## The addresses of the standard library

The readers of `core::net::parser` return what they leave of the text. -/

def isHexDigit (c : Char) : Bool := c.isDigit || ('a' ≤ c && c ≤ 'f') || ('A' ≤ c && c ≤ 'F')

def readNumber (isDigit : Char → Bool) (maxDigits : ℕ) (fits : List Char → Bool)
    (text : List Char) : Option (List Char) :=
  let digits := text.takeWhile isDigit
  if digits ≠ [] ∧ digits.length ≤ maxDigits ∧ fits digits then some (text.drop digits.length)
  else none

def readSeparator (sep : Char) (index : ℕ) (inner : List Char → Option (List Char))
    (text : List Char) : Option (List Char) :=
  if index = 0 then inner text
  else match text with
    | c :: rest => if c = sep then inner rest else none
    | [] => none

/-- No leading zeros, and at most 255. -/
def readIpv4Addr (text : List Char) : Option (List Char) :=
  (List.range 4).foldlM (fun text index => readSeparator '.' index (readNumber Char.isDigit 3
    fun digits => (digits.head? ≠ some '0' || digits.length = 1) && decimalValue digits ≤ 255)
    text) text

/-- How many groups were read, and whether the last two were an embedded IPv4 address. -/
def readGroups : ℕ → ℕ → List Char → ℕ × Bool × List Char
  | 0, index, text => (index, false, text)
  | left + 1, index, text =>
    -- an IPv4 address takes two groups
    match if 0 < left then readSeparator ':' index readIpv4Addr text else none with
    | some rest => (index + 2, true, rest)
    | none =>
      match readSeparator ':' index (readNumber isHexDigit 4 fun _ => true) text with
      | some rest => readGroups left (index + 1) rest
      | none => (index, false, text)

/-- Whether `str::parse::<Ipv6Addr>` takes the text. -/
def isIpv6Addr (text : List Char) : Bool :=
  match readGroups 8 0 text with
  | (8, _, rest) => rest = []
  | (size, false, ':' :: ':' :: rest) => (readGroups (7 - size) 0 rest).2.2 = []
  | _ => false

/-! ## The code -/

def separator : List Char := [':', '/', '/']

def redactedUrlPlaceholder : List Char := "<redacted-url>".toList

def isUrlScheme : List Char → Bool
  | [] => false
  | c :: rest => c.isAlpha && rest.all fun c => c.isAlphanum || c = '+' || c = '-' || c = '.'

def isPort (port : List Char) : Bool :=
  port ≠ [] && port.all Char.isDigit && decimalValue port ≤ 65535

def isHostName (host : List Char) : Bool :=
  host ≠ [] && host.all fun c => c.isAlphanum || c = '-' || c = '.'

def isHostPort : List Char → Bool
  | '[' :: rest =>
    match splitOnce [']'] rest with
    | none => false
    | some (ipv6, ':' :: port) => isIpv6Addr ipv6 && isPort port
    | some (ipv6, []) => isIpv6Addr ipv6
    | some _ => false
  | hostPort =>
    match rsplitOnce ':' hostPort with
    | some (host, port) => isHostName host && isPort port
    | none => isHostName hostPort

def redactUrl (url : List Char) : List Char :=
  match splitOnce separator url with
  | none => redactedUrlPlaceholder
  | some (scheme, rest) =>
    let authority := rest.takeWhile (· ∉ ['/', '?', '#'])
    let hostPort := (rsplitOnce '@' authority).elim authority Prod.snd
    if isUrlScheme scheme && isHostPort hostPort then scheme ++ separator ++ hostPort
    else redactedUrlPlaceholder

/-! ## What is left of a URL -/

/-- A name, or an IPv6 address in brackets. -/
def ValidHost (host : List Char) : Prop :=
  (host ≠ [] ∧ ∀ c ∈ host, c.isAlphanum ∨ c = '-' ∨ c = '.') ∨
    ∃ ipv6, host = '[' :: ipv6 ++ [']'] ∧ isIpv6Addr ipv6 = true

def ValidPort (port : List Char) : Prop :=
  port = [] ∨ ∃ digits, port = ':' :: digits ∧ digits ≠ [] ∧ (∀ c ∈ digits, c.isDigit) ∧
    decimalValue digits < 2 ^ 16

def ValidScheme (scheme : List Char) : Prop :=
  ∃ c rest, scheme = c :: rest ∧ c.isAlpha ∧
    ∀ d ∈ rest, d.isAlphanum ∨ d = '+' ∨ d = '-' ∨ d = '.'

lemma validScheme {scheme : List Char} (h : isUrlScheme scheme = true) : ValidScheme scheme := by
  cases scheme with
  | nil => cases h
  | cons c rest =>
    simp only [isUrlScheme, Bool.and_eq_true, List.all_eq_true, Bool.or_eq_true,
      decide_eq_true_eq, or_assoc] at h
    exact ⟨c, rest, rfl, h⟩

lemma validPort {port : List Char} (h : isPort port = true) : ValidPort (':' :: port) := by
  simp only [isPort, Bool.and_eq_true, List.all_eq_true, decide_eq_true_eq, and_assoc] at h
  exact .inr ⟨port, rfl, h.1, h.2.1, Nat.lt_succ_of_le h.2.2⟩

lemma validHost_of_name {host : List Char} (h : isHostName host = true) : ValidHost host := by
  simp only [isHostName, Bool.and_eq_true, List.all_eq_true, Bool.or_eq_true, decide_eq_true_eq,
    or_assoc] at h
  exact .inl h

lemma valid_of_isHostPort {hostPort : List Char} (h : isHostPort hostPort = true) :
    ∃ host port, hostPort = host ++ port ∧ ValidHost host ∧ ValidPort port := by
  unfold isHostPort at h
  split at h
  · split at h
    · cases h
    · rename_i hs
      rw [Bool.and_eq_true] at h
      rw [splitOnce_eq_some hs]
      exact ⟨_, _, by simp, .inr ⟨_, rfl, h.1⟩, validPort h.2⟩
    · rename_i hs
      rw [splitOnce_eq_some hs]
      exact ⟨_, [], by simp, .inr ⟨_, rfl, h⟩, .inl rfl⟩
    · cases h
  · split at h
    · rename_i hs
      rw [Bool.and_eq_true] at h
      exact ⟨_, _, rsplitOnce_eq_some hs, validHost_of_name h.1, validPort h.2⟩
    · exact ⟨_, [], (List.append_nil _).symm, validHost_of_name h, .inl rfl⟩

/-! ## Redaction -/

def withAt (userinfo : Option (List Char)) : List Char :=
  userinfo.elim [] (· ++ ['@'])

/-- A scheme without the separator ends where the separator begins, because no end of the
separator is also a beginning of it. -/
lemma splitOnce_scheme {scheme : List Char} (h : ¬ separator <:+: scheme) (rest : List Char) :
    splitOnce separator (scheme ++ separator ++ rest) = some (scheme, rest) := by
  induction scheme with
  | nil => rfl
  | cons c s ih =>
    have hs : ¬ separator <:+: s := fun hs => h (hs.trans (List.suffix_cons c s).isInfix)
    have hp : ¬ separator <+: c :: (s ++ separator ++ rest) := by
      intro hp
      obtain - | ⟨d, - | ⟨e, s⟩⟩ := s
      · simp [separator] at hp
      · simp [separator] at hp
      · simp only [separator, List.cons_append, List.cons_prefix_cons, List.nil_prefix,
          and_true] at hp
        obtain ⟨rfl, rfl, rfl⟩ := hp
        exact h ⟨[], s, rfl⟩
    rw [List.cons_append, List.cons_append, splitOnce, if_neg hp, ih hs]
    rfl

lemma takeWhile_authority {authority tail : List Char}
    (ha : ∀ c ∈ authority, c ∉ ['/', '?', '#']) (ht : ∀ c ∈ tail.head?, c ∈ ['/', '?', '#']) :
    (authority ++ tail).takeWhile (· ∉ ['/', '?', '#']) = authority := by
  rw [List.takeWhile_append_of_pos fun c hc => decide_eq_true (ha c hc)]
  cases tail with
  | nil => rw [List.takeWhile_nil, List.append_nil]
  | cons c tail =>
    have hc : ¬ decide (c ∉ ['/', '?', '#']) = true := by
      rw [decide_eq_true_eq, not_not]
      exact ht c rfl
    rw [List.takeWhile_cons, if_neg hc, List.append_nil]

lemma hostPort_of_authority {hostPort : List Char} (h : '@' ∉ hostPort)
    (userinfo : Option (List Char)) :
    (rsplitOnce '@' (withAt userinfo ++ hostPort)).elim (withAt userinfo ++ hostPort) Prod.snd =
      hostPort := by
  cases userinfo with
  | none =>
    rw [show withAt none ++ hostPort = hostPort from rfl, rsplitOnce_eq_none h]
    rfl
  | some userinfo =>
    rw [show withAt (some userinfo) = userinfo ++ ['@'] from rfl, List.append_assoc,
      List.singleton_append, rsplitOnce_append h]
    rfl

/-- The parts of a URL that the error messages may not depend on. -/
structure Hidden where
  userinfo : Option (List Char)
  tail : List Char
  userinfo_free : ∀ c ∈ withAt userinfo, c ∉ ['/', '?', '#']
  tail_starts : ∀ c ∈ tail.head?, c ∈ ['/', '?', '#']

def Hidden.url (hidden : Hidden) (scheme hostPort : List Char) : List Char :=
  scheme ++ separator ++ (withAt hidden.userinfo ++ hostPort ++ hidden.tail)

lemma redactUrl_url {scheme hostPort : List Char} (hs : ¬ separator <:+: scheme)
    (hf : ∀ c ∈ hostPort, c ∉ ['/', '?', '#', '@']) (hidden : Hidden) :
    redactUrl (hidden.url scheme hostPort) =
      if isUrlScheme scheme && isHostPort hostPort then scheme ++ separator ++ hostPort
      else redactedUrlPlaceholder := by
  have hd : ∀ c ∈ hostPort, c ∉ ['/', '?', '#'] := by
    intro c hc hm
    exact hf c hc (List.mem_append_left ['@'] hm)
  have ha : '@' ∉ hostPort := fun hm => hf '@' hm (by decide)
  have hau : ∀ c ∈ withAt hidden.userinfo ++ hostPort, c ∉ ['/', '?', '#'] := by
    intro c hc
    rw [List.mem_append] at hc
    exact hc.elim (hidden.userinfo_free c) (hd c)
  rw [redactUrl, Hidden.url, splitOnce_scheme hs]
  dsimp only
  rw [takeWhile_authority hau hidden.tail_starts, hostPort_of_authority ha]

/-- Two URLs that differ in what is hidden are redacted alike, to the placeholder or to a valid
scheme, host and port, which stays as it is when redacted again; a text that is no URL gives the
placeholder. -/
theorem redactUrl_hides (scheme hostPort : List Char) (hscheme : ¬ separator <:+: scheme)
    (hhost : ∀ c ∈ hostPort, c ∉ ['/', '?', '#', '@']) (one two : Hidden) (text : List Char)
    (htext : ¬ separator <:+: text) :
    redactUrl (one.url scheme hostPort) = redactUrl (two.url scheme hostPort) ∧
      (redactUrl (one.url scheme hostPort) = redactedUrlPlaceholder ∨
        redactUrl (one.url scheme hostPort) = scheme ++ separator ++ hostPort ∧
          ValidScheme scheme ∧
          ∃ host port, hostPort = host ++ port ∧ ValidHost host ∧ ValidPort port) ∧
      redactUrl (redactUrl (one.url scheme hostPort)) = redactUrl (one.url scheme hostPort) ∧
      redactUrl text = redactedUrlPlaceholder := by
  have hplain : ∀ text, ¬ separator <:+: text → redactUrl text = redactedUrlPlaceholder := by
    intro text htext
    rw [redactUrl, splitOnce_eq_none htext]
  refine ⟨?_, ?_, ?_, hplain text htext⟩
  · rw [redactUrl_url hscheme hhost, redactUrl_url hscheme hhost]
  · rw [redactUrl_url hscheme hhost]
    split_ifs with hvalid
    · rw [Bool.and_eq_true] at hvalid
      exact .inr ⟨rfl, validScheme hvalid.1, valid_of_isHostPort hvalid.2⟩
    · exact .inl rfl
  · rw [redactUrl_url hscheme hhost]
    split_ifs with hvalid
    · -- The redacted URL is the one with nothing to hide.
      have hurl := redactUrl_url hscheme hhost ⟨none, [], by simp [withAt], by simp⟩
      rw [if_pos hvalid, Hidden.url, List.append_nil] at hurl
      exact hurl
    · exact hplain _ (by decide +kernel)

example : redactUrl "https://[2001:db8::1]:443/v0_9/KEY".toList =
    "https://[2001:db8::1]:443".toList := by decide +kernel

example : redactUrl "https://[deadbeef]/rpc".toList = redactedUrlPlaceholder := by decide +kernel

/-- `u:p@s@` before the host, and `/k` behind the port. -/
def withKey : Hidden :=
  ⟨some ['u', ':', 'p', '@', 's'], ['/', 'k'], by simp [withAt], by simp⟩

def withQuery : Hidden := ⟨none, ['?', 'k'], by simp [withAt], by simp⟩

def sampleHost : List Char := ['a', '.', 'b', ':', '8', '0']

lemma sampleHost_free : ∀ c ∈ sampleHost, c ∉ ['/', '?', '#', '@'] := by
  simp [sampleHost]

theorem redactUrl_hides_key :
    redactUrl (withKey.url ['w', 's'] sampleHost) =
        ['w', 's', ':', '/', '/', 'a', '.', 'b', ':', '8', '0'] ∧
      redactUrl (withQuery.url ['w', 's'] sampleHost) =
        ['w', 's', ':', '/', '/', 'a', '.', 'b', ':', '8', '0'] := by
  have hr : redactUrl (withKey.url ['w', 's'] sampleHost) =
      ['w', 's', ':', '/', '/', 'a', '.', 'b', ':', '8', '0'] := by decide +kernel
  have h := redactUrl_hides ['w', 's'] sampleHost (by decide) sampleHost_free
    withKey withQuery [] (by decide)
  exact ⟨hr, h.1.symm.trans hr⟩

end KrustyKms.RedactUrl
