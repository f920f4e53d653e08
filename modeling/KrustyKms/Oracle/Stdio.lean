import KrustyKms.Codec.Text
import KrustyKms.Common.Serde
import KrustyKms.Gateway.Operations
import KrustyKms.Oracle.LineReader

/-!
# The stdio oracle

`serve` reads request lines and writes one response line for each, except for blank ones. The
state of the handler goes from one request to the next.
-/

namespace KrustyKms.Oracle

open Codec Gateway

/-! ## Responses -/

structure ProtocolVersion where
  major : UInt16
  minor : UInt16
deriving DecidableEq

def ProtocolVersion.v1_0 : ProtocolVersion := ⟨1, 0⟩

inductive OracleOutcome (OracleResult : Type) where
  | ok (result : OracleResult)
  | error (error : GatewayError)
deriving DecidableEq

structure OracleResponse (OracleResult : Type) where
  version : ProtocolVersion
  id : Option String
  outcome : OracleOutcome OracleResult
deriving DecidableEq

def errorCodeName : GatewayErrorCode → String
  | .undeployed => "Undeployed"
  | .notFound => "NotFound"
  | .providerTransport => "ProviderTransport"
  | .insufficientBalance => "InsufficientBalance"
  | .insufficientFee => "InsufficientFee"
  | .nonceMismatch => "NonceMismatch"
  | .invalidRequest => "InvalidRequest"
  | .invalidClassHash => "InvalidClassHash"
  | .constructorCalldataMismatch => "ConstructorCalldataMismatch"
  | .invalidDerivationPath => "InvalidDerivationPath"
  | .invalidCachePolicy => "InvalidCachePolicy"
  | .invalidWaitPolicy => "InvalidWaitPolicy"
  | .unsupportedKeyDomain => "UnsupportedKeyDomain"
  | .unsupportedAccountClass => "UnsupportedAccountClass"
  | .chainMismatch => "ChainMismatch"
  | .unsupportedProtocolVersion => "UnsupportedProtocolVersion"
  | .unsupportedSigningDomain => "UnsupportedSigningDomain"
  | .cacheUnavailable => "CacheUnavailable"
  | .cacheStale => "CacheStale"
  | .rpcDegraded => "RpcDegraded"
  | .timeout => "Timeout"
  | .secretUnavailable => "SecretUnavailable"
  | .internal => "Internal"

def errorToJson (error : GatewayError) : Json := .object [
  ("code", .string (errorCodeName error.code)), ("retryable", .bool error.retryable),
  ("message", .ofOptionalText error.message)]

variable {State OracleRequest OracleResult : Type}

/-- The entries of the outcome stand beside those of the response, behind their tag. -/
def OracleOutcome.entries (resultToJson : OracleResult → Json) :
    OracleOutcome OracleResult → List (String × Json)
  | .ok result => [("status", .string "ok"), ("result", resultToJson result)]
  | .error reason => [("status", .string "error"), ("error", errorToJson reason)]

def OracleResponse.toJson (resultToJson : OracleResult → Json)
    (response : OracleResponse OracleResult) : Json :=
  .object ([
    ("version", .object [("major", .posInt response.version.major.toUInt64),
      ("minor", .posInt response.version.minor.toUInt64)]),
    ("id", .ofOptionalText response.id)] ++ response.outcome.entries resultToJson)

/-- The parts of the server that `serve` does not see into. The state is all that the handler
keeps from one request to the next and whatever it reads of its surroundings: its clock, its
caches and the environment. -/
structure StdioOracle (State OracleRequest OracleResult : Type) where
  /-- `serde_json::from_str` on a line. -/
  fromStr : String → Option OracleRequest
  handleRequest : OracleRequest → State → OracleResponse OracleResult × State
  resultToJson : OracleResult → Json
  /-- There are no floats in a result, and a response is not too deep to be read. -/
  plain_resultToJson : ∀ result, (resultToJson result).plain (serdeJsonDepth - 1) = true

def maxStdioLineBytes : ℕ := 256 * 1024

def invalidRequest (message : String) : OracleResponse OracleResult where
  version := .v1_0
  id := none
  outcome := .error { code := .invalidRequest, retryable := false, message := some message }

def tooLongMessage : String :=
  "request line exceeds maximum length of " ++ toString maxStdioLineBytes ++ " bytes"

namespace StdioOracle

variable (oracle : StdioOracle State OracleRequest OracleResult)

def handleLine (line : String) (st : State) : OracleResponse OracleResult × State :=
  if maxStdioLineBytes < line.utf8ByteSize then (invalidRequest tooLongMessage, st)
  else
    match oracle.fromStr line with
    | some request => oracle.handleRequest request st
    | none => (invalidRequest "invalid request JSON", st)

/-- `serde_json::to_vec` on a response. -/
def toVec (response : OracleResponse OracleResult) : Bytes :=
  utf8 (response.toJson oracle.resultToJson).write

def writeResponse (response : OracleResponse OracleResult) : Bytes :=
  oracle.toVec response ++ [newline]

/-- What is written for a line, and the state of the handler after it. -/
def answerLine : LimitedLine → State → Bytes × State
  | .tooLong, st => (oracle.writeResponse (invalidRequest tooLongMessage), st)
  | .invalidUtf8, st =>
    (oracle.writeResponse (invalidRequest "request line is not valid UTF-8"), st)
  | .complete line, st =>
    if (trim line).isEmpty then ([], st)
    else
      let (response, st) := oracle.handleLine line st
      (oracle.writeResponse response, st)

def serveLine (line : LimitedLine) (written : Bytes × State) : Bytes × State :=
  let (answer, st) := oracle.answerLine line written.2
  (written.1 ++ answer, st)

/-- Serve requests up to the end of the input: what is written and the state that is left; `none`
if so many calls of the reader do not get there. -/
def serve (calls : ℕ) (fills : List Bytes) (st : State) : Option (Bytes × State) :=
  forEachLine maxStdioLineBytes oracle.serveLine calls fills ([], st)

/-! ## What is answered -/

def isBlank (line : Bytes × Bool) : Bool :=
  match fromUtf8 (body line) with
  | some text => (trim text).isEmpty
  | none => false

def isOversized (line : Bytes × Bool) : Bool := decide (maxStdioLineBytes < line.1.length)

/-- The lines that are answered: those that are too long or not blank. -/
def answered (input : List (Bytes × Bool)) : List (Bytes × Bool) :=
  input.filter fun line => isOversized line || !isBlank line

def responseTo (line : Bytes × Bool) (st : State) : OracleResponse OracleResult × State :=
  match classify maxStdioLineBytes line with
  | .tooLong => (invalidRequest tooLongMessage, st)
  | .invalidUtf8 => (invalidRequest "request line is not valid UTF-8", st)
  | .complete text => oracle.handleLine text st

/-- One response for each of the lines in turn, and the state after the last. -/
def responses : List (Bytes × Bool) → State → List (OracleResponse OracleResult) × State
  | [], st => ([], st)
  | line :: input, st =>
    let (response, st) := oracle.responseTo line st
    let (rest, st) := responses input st
    (response :: rest, st)

lemma length_responses (input : List (Bytes × Bool)) (st : State) :
    (oracle.responses input st).1.length = input.length := by
  induction input generalizing st with
  | nil => rfl
  | cons line input ih => exact congrArg (· + 1) (ih _)

lemma answerLine_classify (line : Bytes × Bool) (st : State) :
    oracle.answerLine (classify maxStdioLineBytes line) st =
      if isOversized line || !isBlank line then
        (oracle.writeResponse (oracle.responseTo line st).1, (oracle.responseTo line st).2)
      else ([], st) := by
  unfold responseTo classify isOversized isBlank
  by_cases hlong : maxStdioLineBytes < line.1.length
  · simp only [hlong, decide_true, Bool.true_or, if_true]
    rfl
  · simp only [hlong, decide_false, Bool.false_or, decodeLineUtf8]
    cases fromUtf8 (body line) with
    | none => rfl
    | some text =>
      by_cases hblank : (trim text).isEmpty = true
      · simp [answerLine, hblank]
      · simp [answerLine, hblank]

lemma foldl_serveLine (input : List (Bytes × Bool)) (written : Bytes) (st : State) :
    input.foldl (fun s line => oracle.serveLine (classify maxStdioLineBytes line) s)
        (written, st) =
      (written ++ (oracle.responses (answered input) st).1.flatMap fun response =>
        oracle.toVec response ++ [newline], (oracle.responses (answered input) st).2) := by
  induction input generalizing written st with
  | nil => simp [answered, responses]
  | cons line input ih =>
    rw [List.foldl_cons, serveLine, answerLine_classify, answered, List.filter_cons]
    split_ifs with hanswered
    · rw [ih, List.append_assoc]
      rfl
    · rw [ih, List.append_nil]
      rfl

lemma plain_toJson (response : OracleResponse OracleResult) :
    (response.toJson oracle.resultToJson).plain serdeJsonDepth = true := by
  have hid : ∀ (text : Option String) (depth : ℕ),
      (Json.ofOptionalText text).plain depth = true := by
    intro text depth
    cases text <;> rfl
  show Json.plainEntries (serdeJsonDepth - 1) _ = true
  rw [Json.plainEntries_iff]
  intro entry hentry
  rw [List.cons_append, List.cons_append, List.nil_append, List.mem_cons, List.mem_cons] at hentry
  obtain rfl | rfl | hentry := hentry
  · rfl
  · exact hid _ _
  · cases houtcome : response.outcome with
    | ok result =>
      rw [houtcome, OracleOutcome.entries, List.mem_pair] at hentry
      obtain rfl | rfl := hentry
      · rfl
      · exact oracle.plain_resultToJson result
    | error error =>
      rw [houtcome, OracleOutcome.entries, List.mem_pair] at hentry
      obtain rfl | rfl := hentry
      · rfl
      · show Json.plainEntries (serdeJsonDepth - 2) _ = true
        simp only [Json.plainEntries, hid]
        rfl

lemma newline_not_mem_toVec (response : OracleResponse OracleResult) :
    newline ∉ oracle.toVec response := by
  intro hmem
  have hchar : '\n' ∈ (response.toJson oracle.resultToJson).write.toList :=
    mem_toList_of_mem_utf8 (by decide) hmem
  rw [Json.write, String.toList_ofList] at hchar
  exact Json.newline_not_mem_chars _ _ (oracle.plain_toJson response) hchar

lemma lines_serve {fills : List Bytes} (hfills : ∀ fill ∈ fills, fill ≠ []) {calls : ℕ}
    (hcalls : (lines fills.flatten).length < calls) (st : State) :
    ∃ output, oracle.serve calls fills st =
        some (output, (oracle.responses (answered (lines fills.flatten)) st).2) ∧
      lines output = (oracle.responses (answered (lines fills.flatten)) st).1.map
        fun response => (oracle.toVec response, true) := by
  refine ⟨_, ?_, lines_flatMap oracle.newline_not_mem_toVec _⟩
  exact (forEachLine_eq _ _ hfills hcalls _).trans (congrArg some (oracle.foldl_serveLine _ [] st))

/-- The calls of the reader return the lines of the stream with the right verdicts, whatever the
limit and the fills; its buffer is never above the limit; and the server writes one response
line for each line that is too long or not blank, in order, whatever the handler does. -/
theorem stdio_lines (maxBytes : ℕ) (fills : List Bytes) (hfills : ∀ fill ∈ fills, fill ≠ [])
    (st : State) :
    (∀ calls, (lines fills.flatten).length < calls →
        readAll maxBytes calls fills = some ((lines fills.flatten).map (classify maxBytes))) ∧
      (∀ rounds, (readLineLimited maxBytes fills rounds).buf.length ≤ maxBytes) ∧
      ∀ calls, (lines fills.flatten).length < calls →
        ∃ output, oracle.serve calls fills st =
            some (output, (oracle.responses (answered (lines fills.flatten)) st).2) ∧
          lines output = (oracle.responses (answered (lines fills.flatten)) st).1.map
            (fun response => (oracle.toVec response, true)) ∧
          (lines output).length = (answered (lines fills.flatten)).length := by
  refine ⟨fun _ hcalls => readAll_eq maxBytes hfills hcalls, length_buf_le maxBytes fills, ?_⟩
  intro calls hcalls
  obtain ⟨output, hserve, hlines⟩ := oracle.lines_serve hfills hcalls st
  refine ⟨output, hserve, hlines, ?_⟩
  rw [hlines, List.length_map, length_responses]

end StdioOracle

/-! ## A blank line that is answered -/

/-- A server that is sent lines that are no requests. -/
def sampleOracle : StdioOracle Unit Empty Empty where
  fromStr := fun _ => none
  handleRequest := nofun
  resultToJson := nofun
  plain_resultToJson := nofun

/-- Two lines in three fills, the first one split and the second one not UTF-8. -/
theorem stdio_lines_sample :
    readAll 4 4 [[97], [13, 10, 255], [10]] = some [.complete "a", .invalidUtf8] ∧
      ∃ output, sampleOracle.serve 4 [[97], [13, 10, 255], [10]] () = some (output, ()) ∧
        lines output = [
          (sampleOracle.toVec (invalidRequest "invalid request JSON"), true),
          (sampleOracle.toVec (invalidRequest "request line is not valid UTF-8"), true)] := by
  have h := sampleOracle.stdio_lines 4 [[97], [13, 10, 255], [10]] (by decide) ()
  obtain ⟨output, hserve, hlines, -⟩ := h.2.2 4 (by decide)
  exact ⟨h.1 4 (by decide), output, hserve, hlines⟩

lemma utf8_spaces (n : ℕ) :
    utf8 (String.ofList (List.replicate n ' ')) = List.replicate n 32 := by
  induction n with
  | zero => rfl
  | succ n ih =>
    have hc : String.ofList (List.replicate (n + 1) ' ') =
        String.singleton ' ' ++ String.ofList (List.replicate n ' ') := by
      apply String.toList_inj.mp
      simp [List.replicate_succ]
    rw [hc, utf8_append, ih]
    rfl

lemma isBlank_spaces (n : ℕ) : StdioOracle.isBlank (List.replicate n 32, true) = true := by
  have hb : body (List.replicate n 32, true) = List.replicate n 32 := by
    unfold body dropCarriageReturn
    rw [if_pos rfl, if_neg]
    rw [List.getLast?_replicate]
    split_ifs <;> decide
  have ht := fromUtf8_eq_some.mpr (utf8_spaces n).symm
  have htr : trim (String.ofList (List.replicate n ' ')) = "" := by
    unfold trim
    have hn : (List.replicate n ' ').dropWhile isWhitespace = [] := by
      rw [List.dropWhile_eq_nil_iff]
      intro c hc
      rw [List.eq_of_mem_replicate hc]
      decide
    rw [String.toList_ofList, hn]
    rfl
  unfold StdioOracle.isBlank
  rw [hb, ht]
  change (trim (String.ofList (List.replicate n ' '))).isEmpty = true
  rw [htr]
  rfl

lemma serve_spaces {n : ℕ} (hlong : maxStdioLineBytes < n) :
    lines [List.replicate n 32 ++ [newline]].flatten = [(List.replicate n 32, true)] ∧
      ∃ output, sampleOracle.serve 2 [List.replicate n 32 ++ [newline]] () = some (output, ()) ∧
        lines output = [(sampleOracle.toVec (invalidRequest tooLongMessage), true)] := by
  have hspaces : newline ∉ List.replicate n (32 : UInt8) := by
    intro hmem
    exact absurd (List.eq_of_mem_replicate hmem) (by decide)
  have hline : lines [List.replicate n 32 ++ [newline]].flatten =
      [(List.replicate n 32, true)] := by
    rw [List.flatten_singleton, lines, linesFrom_append hspaces, List.nil_append,
      linesFrom_newline]
    rfl
  have hlength : maxStdioLineBytes < (List.replicate n (32 : UInt8)).length := by
    rwa [List.length_replicate]
  have hanswered : StdioOracle.answered [(List.replicate n 32, true)] =
      [(List.replicate n 32, true)] :=
    List.filter_cons_of_pos (Bool.or_eq_true_iff.mpr (.inl (decide_eq_true hlength)))
  have hclass : classify maxStdioLineBytes (List.replicate n 32, true) = .tooLong :=
    if_pos hlength
  have hresponses : sampleOracle.responses [(List.replicate n 32, true)] () =
      ([invalidRequest tooLongMessage], ()) := by
    simp only [StdioOracle.responses, StdioOracle.responseTo, hclass]
  obtain ⟨output, hserve, houtput⟩ := sampleOracle.lines_serve
    (show ∀ fill ∈ [List.replicate n 32 ++ [newline]], fill ≠ [] by simp)
    (show (lines [List.replicate n 32 ++ [newline]].flatten).length < 2 by
      rw [hline, List.length_singleton]; decide) ()
  rw [hline, hanswered, hresponses] at houtput
  exact ⟨hline, output, hserve, houtput⟩

/-- The input is one blank line, and a response is written. -/
theorem serve_answers_long_blank :
    (lines [List.replicate 262145 32 ++ [newline]].flatten).all StdioOracle.isBlank = true ∧
      ∃ output,
        sampleOracle.serve 2 [List.replicate 262145 32 ++ [newline]] () = some (output, ()) ∧
        lines output = [(sampleOracle.toVec (invalidRequest tooLongMessage), true)] := by
  obtain ⟨hl, hs⟩ := serve_spaces (show maxStdioLineBytes < 262145 by decide)
  refine ⟨?_, hs⟩
  rw [hl, List.all_cons, isBlank_spaces]
  rfl

end KrustyKms.Oracle
