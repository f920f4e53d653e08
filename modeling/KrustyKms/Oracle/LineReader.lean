import KrustyKms.Common.Basic
import Mathlib.Data.List.TakeWhile
import Mathlib.Logic.Function.Iterate

/-!
# Bounded line reading

The reader gets its input in fills of any size and never keeps more than a limit of a line.
-/

namespace KrustyKms.Oracle

def newline : UInt8 := 10
def carriageReturn : UInt8 := 13

inductive LimitedLine where
  | complete (line : String)
  | tooLong
  | invalidUtf8
deriving DecidableEq

def decodeLineUtf8 (buf : Bytes) : LimitedLine :=
  match fromUtf8 buf with
  | some line => .complete line
  | none => .invalidUtf8

def dropCarriageReturn (buf : Bytes) : Bytes :=
  if buf.getLast? = some carriageReturn then buf.dropLast else buf

/-- One call: what is kept of the line, the fills to come, of which the first is available, and
the result once there is one. A result without a line is the end of the input. -/
structure LineState where
  buf : Bytes
  discarded : Bool
  fills : List Bytes
  result : Option (Option LimitedLine)
deriving DecidableEq

namespace LineState

def retain (maxBytes : ℕ) (bytes : Bytes) (st : LineState) : LineState :=
  if st.discarded then st
  else if maxBytes < st.buf.length + bytes.length then { st with discarded := true }
  else { st with buf := st.buf ++ bytes }

def consume (n : ℕ) (st : LineState) : LineState :=
  match st.fills with
  | [] => st
  | available :: rest =>
    let left := available.drop n
    { st with fills := if left.isEmpty then rest else left :: rest }

def atEnd (st : LineState) : Option LimitedLine :=
  if st.buf.isEmpty ∧ ¬ st.discarded then none
  else if st.discarded then some .tooLong
  else some (decodeLineUtf8 st.buf)

def atNewline (st : LineState) : LimitedLine :=
  if st.discarded then .tooLong else decodeLineUtf8 (dropCarriageReturn st.buf)

def step (maxBytes : ℕ) (st : LineState) : LineState :=
  match st.result with
  | some _ => st
  | none =>
    match st.fills with
    | [] => { st with result := some st.atEnd }
    | available :: _ =>
      match available.findIdx? (· == newline) with
      | some pos =>
        let kept := (st.retain maxBytes (available.take pos)).consume (pos + 1)
        { kept with result := some (some kept.atNewline) }
      | none => (st.retain maxBytes available).consume available.length

end LineState

def readLineLimited (maxBytes : ℕ) (fills : List Bytes) (rounds : ℕ) : LineState :=
  (LineState.step maxBytes)^[rounds] { buf := [], discarded := false, fills, result := none }

def readLine (maxBytes : ℕ) (fills : List Bytes) : LineState :=
  readLineLimited maxBytes fills (fills.length + 1)

/-- The loop of calls up to the end of the input, with what is done about each line; `none` if so
many calls do not get there. -/
def forEachLine {σ : Type} (maxBytes : ℕ) (act : LimitedLine → σ → σ) :
    ℕ → List Bytes → σ → Option σ
  | 0, _, _ => none
  | calls + 1, fills, s =>
    match (readLine maxBytes fills).result with
    | none => none
    | some none => some s
    | some (some line) =>
      forEachLine maxBytes act calls (readLine maxBytes fills).fills (act line s)

/-- The lines that repeated calls return. -/
def readAll (maxBytes calls : ℕ) (fills : List Bytes) : Option (List LimitedLine) :=
  forEachLine maxBytes (fun line read => read ++ [line]) calls fills []

/-! ## The lines of a stream -/

def linesFrom (seen : Bytes) : Bytes → List (Bytes × Bool)
  | [] => if seen = [] then [] else [(seen, false)]
  | byte :: bytes =>
    if byte = newline then (seen, true) :: linesFrom [] bytes else linesFrom (seen ++ [byte]) bytes

def lines (stream : Bytes) : List (Bytes × Bool) := linesFrom [] stream

def body (line : Bytes × Bool) : Bytes := if line.2 then dropCarriageReturn line.1 else line.1

def classify (maxBytes : ℕ) (line : Bytes × Bool) : LimitedLine :=
  if maxBytes < line.1.length then .tooLong else decodeLineUtf8 (body line)

lemma linesFrom_append {piece : Bytes} (hp : newline ∉ piece) (seen rest : Bytes) :
    linesFrom seen (piece ++ rest) = linesFrom (seen ++ piece) rest := by
  induction piece generalizing seen with
  | nil => rw [List.nil_append, List.append_nil]
  | cons byte piece ih =>
    rw [List.mem_cons, not_or] at hp
    rw [List.cons_append, linesFrom, if_neg (Ne.symm hp.1), ih hp.2, List.append_assoc,
      List.singleton_append]

lemma linesFrom_newline (seen rest : Bytes) :
    linesFrom seen (newline :: rest) = (seen, true) :: linesFrom [] rest := if_pos rfl

lemma lines_flatMap {α : Type} {encode : α → Bytes} (hen : ∀ a, newline ∉ encode a) (as : List α) :
    lines (as.flatMap fun a => encode a ++ [newline]) = as.map fun a => (encode a, true) := by
  unfold lines
  induction as with
  | nil => rfl
  | cons a as ih =>
    rw [List.flatMap_cons, List.append_assoc, linesFrom_append (hen a), List.nil_append,
      List.singleton_append, linesFrom_newline, ih, List.map_cons]

/-! ## One call -/

namespace LineState

variable {maxBytes : ℕ} {st : LineState} {seen piece : Bytes}

def Holds (maxBytes : ℕ) (seen : Bytes) (st : LineState) : Prop :=
  st.discarded = false ∧ st.buf = seen ∧ seen.length ≤ maxBytes ∨
    st.discarded = true ∧ maxBytes < seen.length

@[simp] lemma retain_fills (bytes : Bytes) : (st.retain maxBytes bytes).fills = st.fills := by
  unfold retain
  split_ifs <;> rfl

@[simp] lemma retain_result (bytes : Bytes) : (st.retain maxBytes bytes).result = st.result := by
  unfold retain
  split_ifs <;> rfl

lemma Holds.retain (h : Holds maxBytes seen st) (bytes : Bytes) :
    Holds maxBytes (seen ++ bytes) (st.retain maxBytes bytes) := by
  unfold LineState.retain
  rcases h with ⟨hk, hbuf, hle⟩ | ⟨hd, hl⟩
  · rw [hk, if_neg (by simp), hbuf]
    split_ifs with hf
    · exact .inr ⟨rfl, by rwa [List.length_append]⟩
    · exact .inl ⟨rfl, rfl, by rw [List.length_append]; omega⟩
  · rw [hd, if_pos rfl]
    exact .inr ⟨hd, by rw [List.length_append]; omega⟩

lemma Holds.atNewline (h : Holds maxBytes seen st) :
    st.atNewline = classify maxBytes (seen, true) := by
  unfold LineState.atNewline classify body
  rcases h with ⟨hk, hbuf, hle⟩ | ⟨hd, hl⟩
  · rw [hk, if_neg (by simp), if_neg (Nat.not_lt.mpr hle), if_pos rfl, hbuf]
  · rw [hd, if_pos rfl, if_pos hl]

lemma Holds.atEnd_nil (h : Holds maxBytes [] st) : st.atEnd = none := by
  rcases h with ⟨hk, hbuf, -⟩ | ⟨-, hl⟩
  · simp [LineState.atEnd, hk, hbuf]
  · simp at hl

lemma Holds.atEnd (h : Holds maxBytes seen st) (hs : seen ≠ []) :
    st.atEnd = some (classify maxBytes (seen, false)) := by
  unfold LineState.atEnd classify body
  rcases h with ⟨hk, hbuf, hle⟩ | ⟨hd, hl⟩
  · simp [hk, hbuf, hs, Nat.not_lt.mpr hle]
  · simp [hd, hl]

lemma step_of_result {result : Option LimitedLine} (h : st.result = some result) :
    st.step maxBytes = st := by
  unfold step
  rw [h]

lemma iterate_of_result {result : Option LimitedLine} (h : st.result = some result) (n : ℕ) :
    (step maxBytes)^[n] st = st :=
  Function.iterate_fixed (step_of_result h) n

lemma findIdx?_newline {available : Bytes} {pos : ℕ}
    (h : available.findIdx? (· == newline) = some pos) :
    ∃ back, available = available.take pos ++ newline :: back ∧
      available.drop (pos + 1) = back ∧ newline ∉ available.take pos := by
  rw [List.findIdx?_eq_some_iff_getElem] at h
  obtain ⟨hlt, hat, hb⟩ := h
  have heq : available.drop pos = newline :: available.drop (pos + 1) := by
    rw [List.drop_eq_getElem_cons hlt, beq_iff_eq.mp hat]
  refine ⟨available.drop (pos + 1), ?_, rfl, ?_⟩
  · rw [← heq, List.take_append_drop]
  · intro hmem
    obtain ⟨j, hj, hn⟩ := List.mem_iff_getElem.mp hmem
    rw [List.length_take] at hj
    rw [List.getElem_take] at hn
    exact hb j (by omega) (beq_iff_eq.mpr hn)

lemma length_buf_step (h : st.buf.length ≤ maxBytes) :
    (st.step maxBytes).buf.length ≤ maxBytes := by
  have hr : ∀ bytes, (st.retain maxBytes bytes).buf.length ≤ maxBytes := by
    intro bytes
    unfold retain
    split_ifs with hd hf
    · exact h
    · exact h
    · rw [List.length_append]
      omega
  have hc : ∀ n (other : LineState), (other.consume n).buf = other.buf := by
    intro n other
    unfold consume
    split <;> rfl
  unfold step
  split
  · exact h
  · split
    · exact h
    · split
      · change ((st.retain maxBytes _).consume _).buf.length ≤ maxBytes
        rw [hc]
        exact hr _
      · rw [hc]
        exact hr _

end LineState

open LineState

/-- How the first line of a stream comes off, with those bytes of it already seen. -/
inductive FirstLine (seen : Bytes) (stream : Bytes) : Option (Bytes × Bool) → Bytes → Prop
  | none (hseen : seen = []) (hstream : stream = []) : FirstLine seen stream none []
  | last (hline : linesFrom seen stream = [(seen ++ stream, false)])
      (hnonempty : seen ++ stream ≠ []) :
      FirstLine seen stream (some (seen ++ stream, false)) []
  | ended {line rest : Bytes} (hline : linesFrom seen stream = (line, true) :: linesFrom [] rest) :
      FirstLine seen stream (some (line, true)) rest

lemma FirstLine.lines_eq {seen stream rest : Bytes} {line : Option (Bytes × Bool)}
    (h : FirstLine seen stream line rest) :
    linesFrom seen stream = line.toList ++ linesFrom [] rest := by
  cases h with
  | none hs hst =>
    subst hs hst
    rfl
  | last hl hn => rw [hl]; rfl
  | ended hl => rw [hl]; rfl

lemma FirstLine.prepend {seen piece stream rest : Bytes} {line : Option (Bytes × Bool)}
    (hnewline : newline ∉ piece) (hpiece : piece ≠ [])
    (h : FirstLine (seen ++ piece) stream line rest) :
    FirstLine seen (piece ++ stream) line rest := by
  have happend := linesFrom_append hnewline seen stream
  cases h with
  | none hseen _ => exact absurd (List.append_eq_nil_iff.mp hseen).2 hpiece
  | last hline hnonempty =>
    rw [List.append_assoc] at hline hnonempty ⊢
    exact .last (happend.trans hline) hnonempty
  | ended hline => exact .ended (happend.trans hline)

/-- A call that has seen these bytes of a line ends in this state: with the verdict on the first
line of the stream, and with the rest of the stream in non-empty fills. -/
def Reads (maxBytes : ℕ) (seen stream : Bytes) (st : LineState) : Prop :=
  ∃ line rest, FirstLine seen stream line rest ∧
    st.result = some (line.map (classify maxBytes)) ∧ st.fills.flatten = rest ∧
    ∀ fill ∈ st.fills, fill ≠ []

namespace LineState

variable {maxBytes : ℕ} {st : LineState} {seen available : Bytes} {more : List Bytes}

lemma reads_step_of_end (hopen : st.result = none) (hfills : st.fills = [])
    (hholds : Holds maxBytes seen st) : Reads maxBytes seen [] (st.step maxBytes) := by
  have hstep : st.step maxBytes = { st with result := some st.atEnd } := by
    unfold step
    rw [hopen, hfills]
  rw [hstep]
  by_cases hseen : seen = []
  · subst hseen
    exact ⟨none, [], .none rfl rfl, by rw [hholds.atEnd_nil]; rfl, by simp [hfills],
      by simp [hfills]⟩
  · have hline : linesFrom seen [] = [(seen ++ [], false)] := by
      rw [linesFrom, if_neg hseen, List.append_nil]
    refine ⟨_, [], .last hline (by simpa using hseen), ?_, by simp [hfills], by simp [hfills]⟩
    rw [hholds.atEnd hseen, List.append_nil]
    rfl

/-- A fill without a newline is kept or skipped. -/
lemma step_of_no_newline (hopen : st.result = none) (hfills : st.fills = available :: more)
    (hpos : available.findIdx? (· == newline) = none) :
    st.step maxBytes = { st.retain maxBytes available with fills := more } := by
  unfold step
  simp only [hopen, hfills, hpos, consume, retain_fills, List.drop_length, List.isEmpty_nil,
    if_true]

/-- A newline ends the call, and what follows it stays available. -/
lemma reads_step_of_newline {pos : ℕ} (hopen : st.result = none)
    (hfills : st.fills = available :: more) (hmore : ∀ fill ∈ more, fill ≠ [])
    (hholds : Holds maxBytes seen st) (hpos : available.findIdx? (· == newline) = some pos) :
    (st.step maxBytes).result ≠ none ∧
      Reads maxBytes seen (available ++ more.flatten) (st.step maxBytes) := by
  obtain ⟨back, havailable, hback, hfront⟩ := findIdx?_newline hpos
  set left := if back.isEmpty then more else back :: more with hleft
  have hstep : st.step maxBytes =
      { st.retain maxBytes (available.take pos) with
        fills := left
        result := some (some (classify maxBytes (seen ++ available.take pos, true))) } := by
    have hnewline := (hholds.retain (available.take pos)).atNewline
    unfold step
    simp only [hopen, hfills, hpos, consume, retain_fills, hback]
    rw [← hnewline]
    rfl
  have hflatten : left.flatten = back ++ more.flatten := by
    by_cases hempty : back = []
    · simp [hleft, hempty]
    · simp [hleft, hempty]
  have hnonempty : ∀ fill ∈ left, fill ≠ [] := by
    intro fill hfill
    rw [hleft] at hfill
    split_ifs at hfill with hempty
    · exact hmore fill hfill
    · rcases List.mem_cons.mp hfill with rfl | hin
      · simpa using hempty
      · exact hmore fill hin
  rw [hstep]
  refine ⟨Option.some_ne_none _, _, left.flatten, .ended ?_, rfl, rfl, hnonempty⟩
  have hsplit : available ++ more.flatten =
      available.take pos ++ newline :: (back ++ more.flatten) := by
    rw [← List.cons_append, ← List.append_assoc, ← havailable]
  rw [hflatten, hsplit, linesFrom_append hfront, linesFrom_newline]

end LineState

lemma reads_iterate (maxBytes : ℕ) (seen : Bytes) (st : LineState)
    (hnonempty : ∀ fill ∈ st.fills, fill ≠ []) (hopen : st.result = none)
    (hholds : Holds maxBytes seen st) :
    Reads maxBytes seen st.fills.flatten ((step maxBytes)^[st.fills.length + 1] st) := by
  -- by the fills to come; the invariant is that the bytes seen are held
  induction hfills : st.fills generalizing seen st with
  | nil => exact reads_step_of_end hopen hfills hholds
  | cons available more ih =>
    rw [hfills, List.forall_mem_cons] at hnonempty
    rw [List.flatten_cons, List.length_cons, Function.iterate_succ_apply]
    cases hpos : available.findIdx? (· == newline) with
    | none =>
      have hnewline : newline ∉ available := by
        intro hmem
        rw [List.findIdx?_eq_none_iff] at hpos
        simpa using hpos newline hmem
      rw [step_of_no_newline hopen hfills hpos]
      obtain ⟨line, rest, hfirst, hreads⟩ :=
        ih (seen ++ available) { st.retain maxBytes available with fills := more }
          hnonempty.2 ((retain_result available).trans hopen) (hholds.retain available) rfl
      exact ⟨line, rest, hfirst.prepend hnewline hnonempty.1, hreads⟩
    | some pos =>
      obtain ⟨hdone, hreads⟩ := reads_step_of_newline hopen hfills hnonempty.2 hholds hpos
      obtain ⟨result, hresult⟩ := Option.ne_none_iff_exists'.mp hdone
      rwa [iterate_of_result hresult]

lemma reads_readLine (maxBytes : ℕ) {fills : List Bytes} (hf : ∀ fill ∈ fills, fill ≠ []) :
    Reads maxBytes [] fills.flatten (readLine maxBytes fills) :=
  reads_iterate maxBytes [] { buf := [], discarded := false, fills, result := none } hf rfl
    (.inl ⟨rfl, rfl, Nat.zero_le _⟩)

lemma length_buf_le (maxBytes : ℕ) (fills : List Bytes) (rounds : ℕ) :
    (readLineLimited maxBytes fills rounds).buf.length ≤ maxBytes := by
  unfold readLineLimited
  induction rounds with
  | zero => exact Nat.zero_le _
  | succ rounds ih =>
    rw [Function.iterate_succ_apply']
    exact length_buf_step ih

/-- The loop of calls acts on the verdicts of the lines of the stream, one after the other. -/
lemma forEachLine_eq {σ : Type} (maxBytes : ℕ) (act : LimitedLine → σ → σ) {fills : List Bytes}
    (hfills : ∀ fill ∈ fills, fill ≠ []) {calls : ℕ}
    (hcalls : (lines fills.flatten).length < calls) (s : σ) :
    forEachLine maxBytes act calls fills s =
      some ((lines fills.flatten).foldl (fun s line => act (classify maxBytes line) s) s) := by
  induction calls generalizing fills s with
  | zero => exact absurd hcalls (Nat.not_lt_zero _)
  | succ calls ih =>
    obtain ⟨line, rest, hfirst, hresult, hrest, hnonempty⟩ := reads_readLine maxBytes hfills
    have hlines : lines fills.flatten = line.toList ++ lines rest := hfirst.lines_eq
    unfold forEachLine
    rw [hresult]
    cases line with
    | none =>
      cases hfirst with
      | none _ hstream =>
        rw [hstream]
        rfl
    | some line =>
      rw [hlines, Option.toList_some, List.singleton_append, List.length_cons] at hcalls
      have hloop := ih hnonempty (by rw [hrest]; omega) (act (classify maxBytes line) s)
      rw [hrest] at hloop
      simp only [Option.map_some, hloop, hlines, Option.toList_some, List.singleton_append,
        List.foldl_cons]

lemma readAll_eq (maxBytes : ℕ) {fills : List Bytes} (hfills : ∀ fill ∈ fills, fill ≠ [])
    {calls : ℕ} (hcalls : (lines fills.flatten).length < calls) :
    readAll maxBytes calls fills = some ((lines fills.flatten).map (classify maxBytes)) := by
  have hfold : ∀ (input : List (Bytes × Bool)) (read : List LimitedLine),
      input.foldl (fun read line => read ++ [classify maxBytes line]) read =
        read ++ input.map (classify maxBytes) := by
    intro input
    induction input with
    | nil => simp
    | cons line input ih => simp [ih]
  exact (forEachLine_eq maxBytes _ hfills hcalls []).trans (congrArg some (hfold _ []))

end KrustyKms.Oracle
