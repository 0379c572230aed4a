import Columnar.Http
import Columnar.Proofs.Text.Lines

/-!
The lines of a body.

They depend only on the bytes of the body before its first error and on that error, however the
bytes are cut into chunks (`lines_eq`). Where a body breaks off, the line begun there is lost
(`lines_of_breaksOff`). Where the bytes are those of a text, they are the lines of the text.
-/

namespace Columnar.Body

open Text (Bytes)

/-! ### Up to the first error -/

section UpToError

variable {α : Type}

theorem upToError_ok_append (l : List α) (more : List (Result α)) :
    upToError (l.map Except.ok ++ more) = l.map Except.ok ++ upToError more := by
  induction l with
  | nil => rfl
  | cons a l ih => rw [List.map_cons, List.cons_append, upToError, ih, List.cons_append]

theorem length_upToError_le : ∀ l : List (Result α), (upToError l).length ≤ l.length
  | [] => Nat.le_refl _
  | .ok _ :: l => Nat.succ_le_succ (length_upToError_le l)
  | .error _ :: _ => Nat.succ_le_succ (Nat.zero_le _)

theorem upToError_map_ok (l : List α) :
    upToError (l.map Except.ok : List (Result α)) = l.map Except.ok := by
  have h := upToError_ok_append l []
  rwa [List.append_nil, upToError, List.append_nil] at h

theorem upToError_eq_nil_iff {l : List (Result α)} : upToError l = [] ↔ l = [] := by
  cases l with
  | nil => simp [upToError]
  | cons a l => cases a <;> simp [upToError]

end UpToError

/-! ### From chunks to bytes -/

/-- The lines of bytes, where the body ends or breaks off behind them. -/
def wholeLines (bytes : Bytes) (broken : Option ClientError) : List (Result String) :=
  let (complete, last) := Text.cutLines 0x0A 0x0D bytes
  complete.map (lineText [0x0A]) ++
    match broken with
    | some error => [.error error.asBroken]
    | none => if last.isEmpty then [] else [lineText [] last]

theorem linesFrom_eq : ∀ {body : Body} {begun : Bytes}, 0x0A ∉ begun →
    linesFrom begun body = wholeLines (begun ++ body.read.1) body.read.2
  | [], begun, h => by
    simp only [linesFrom, read, List.append_nil, wholeLines, Text.cutLines_of_not_mem h,
      List.map_nil, List.nil_append]
  | .error error :: rest, begun, h => by
    simp only [linesFrom, read, List.append_nil, wholeLines, Text.cutLines_of_not_mem h,
      List.map_nil, List.nil_append]
  | .ok chunk :: rest, begun, h => by
    have hleft := Text.not_mem_cutLines 0x0A 0x0D (begun ++ chunk)
    have hread : read (.ok chunk :: rest) = (chunk ++ (read rest).1, (read rest).2) := rfl
    simp only [linesFrom, linesFrom_eq hleft, hread, wholeLines]
    rw [← List.append_assoc begun, Text.cutLines_append (begun ++ chunk)]
    simp only [List.map_append, List.append_assoc]

/-- How a body is cut into chunks makes no difference to its lines. -/
theorem lines_eq (body : Body) : body.lines = upToError (wholeLines body.read.1 body.read.2) := by
  rw [lines, linesFrom_eq (by simp), List.nil_append]

theorem lines_congr {body body' : Body} (h : body.read = body'.read) :
    body.lines = body'.lines := by
  rw [lines_eq, lines_eq, h]

/-- A body has no lines exactly if it ends without a byte. -/
theorem lines_eq_nil_iff {body : Body} : body.lines = [] ↔ body.read = ([], none) := by
  rw [lines_eq]
  rcases body.read with ⟨bytes, _ | e⟩
  · by_cases hline : (0x0A : UInt8) ∈ bytes
    · have hcomplete : (Text.cutLines 0x0A 0x0D bytes).1 ≠ [] := by
        rw [← List.length_pos_iff, Text.length_cutLines]
        exact List.count_pos_iff.2 hline
      have hne : bytes ≠ [] := List.ne_nil_of_mem hline
      simp [wholeLines, upToError_eq_nil_iff, hcomplete, hne]
    · simp [wholeLines, upToError_eq_nil_iff, Text.cutLines_of_not_mem hline]
  · simp [wholeLines, upToError_eq_nil_iff]

theorem drain_congr {body body' : Body} (h : body.read = body'.read) :
    body.drain = body'.drain := by
  rw [drain, drain, h]

theorem text_congr {body body' : Body} (h : body.read = body'.read) : body.text = body'.text := by
  rw [text, text, drain_congr h]

/-- The bytes of chunks are those of all of them together, whatever follows. -/
theorem read_chunks (chunks : List Bytes) (rest : Body) :
    read (chunks.map .ok ++ rest) = (chunks.flatten ++ rest.read.1, rest.read.2) := by
  induction chunks with
  | nil => rfl
  | cons chunk chunks ih =>
    simp only [List.map_cons, List.cons_append, read, ih, List.flatten_cons, List.append_assoc]

/-- The body breaks off with an error behind a line that has begun; those in front of it have
ended. -/
structure BreaksOff (body : Body) (front begun : Bytes) (e : ClientError) : Prop where
  read : body.read = (front ++ begun, some e)
  front : front = [] ∨ front.getLast? = some 0x0A
  begun : 0x0A ∉ begun

/-- Where a body breaks off, its lines are those that have ended, and then the error. -/
theorem lines_of_breaksOff {body : Body} {front begun : Bytes} {e : ClientError}
    (h : body.BreaksOff front begun e) :
    ∃ ended : List (Result String), ended.length = front.count 0x0A ∧
      lines [.ok front] = upToError ended ∧
      body.lines = upToError (ended ++ [.error e.asBroken]) := by
  have hcut : Text.cutLines 0x0A 0x0D front = ((Text.cutLines 0x0A 0x0D front).1, []) :=
    Prod.ext rfl (Text.cutLines_snd_eq_nil h.front)
  refine ⟨(Text.cutLines 0x0A 0x0D front).1.map (lineText [0x0A]), ?_, ?_, ?_⟩
  · rw [List.length_map, Text.length_cutLines]
  · have hread : read [.ok front] = (front, none) := by simp [read]
    rw [lines_eq, hread, wholeLines, hcut]
    simp
  · rw [lines_eq, h.read, wholeLines, Text.cutLines_append, hcut, List.nil_append,
      Text.cutLines_of_not_mem h.begun]
    simp

/-! ### From bytes to texts -/

@[simp] theorem read_ofText (text : String) :
    (ofText text).read = (Text.encodeUtf8 text, none) := by
  simp [ofText, read]

theorem text_ofText (s : String) : (ofText s).text = .ok s := by
  rw [text, drain, read_ofText]
  simp

theorem lineText_encodeUtf8 (terminator : Bytes) (s : String) :
    lineText terminator (Text.encodeUtf8 s) = .ok s := by
  rw [lineText, Text.decodeUtf8?_encodeUtf8]
  rfl

theorem lineText_encodeChars (terminator : Bytes) (s : List Char) :
    lineText terminator (Text.encodeChars s) = .ok (String.ofList s) := by
  rw [← Text.encodeChars_toList_ofList, lineText_encodeUtf8]

/-- Complete lines of any bytes come before the lines of the text behind them. -/
theorem wholeLines_append_text {front : Bytes} {complete : List Bytes}
    (h : Text.cutLines 0x0A 0x0D front = (complete, [])) (text : String) :
    wholeLines (front ++ Text.encodeUtf8 text) none
      = complete.map (lineText [0x0A]) ++ (Text.lines text).map Except.ok := by
  have hempty : (Text.encodeChars (Text.cutLines '\n' '\r' text.toList).2).isEmpty
      = (Text.cutLines '\n' '\r' text.toList).2.isEmpty := by
    cases (Text.cutLines '\n' '\r' text.toList).2 with
    | nil => rfl
    | cons c l =>
      cases hc : String.utf8EncodeChar c with
      | nil => exact absurd hc String.utf8EncodeChar_ne_nil
      | cons b rest => rw [Text.encodeChars, List.flatMap_cons, hc]; rfl
  rw [wholeLines, Text.cutLines_append, h, List.nil_append, Text.encodeUtf8_eq_encodeChars,
    Text.cutLines_encodeChars]
  simp only [hempty, List.map_append, List.map_map, List.append_assoc, Text.lines,
    List.append_cancel_left_eq]
  congr 1
  · exact List.map_congr_left fun s _ => lineText_encodeChars _ s
  · split
    · rfl
    · rw [lineText_encodeChars]
      rfl

/-- The lines of a body with the bytes of a text are the lines of the text. -/
theorem lines_of_text {body : Body} {text : String}
    (h : body.read = (Text.encodeUtf8 text, none)) :
    body.lines = (Text.lines text).map Except.ok := by
  have hnone : Text.cutLines 0x0A 0x0D ([] : Bytes) = ([], []) := rfl
  have hwhole := wholeLines_append_text hnone text
  rw [List.nil_append, List.map_nil, List.nil_append] at hwhole
  rw [lines_eq, h, hwhole, upToError_map_ok]

/-- The lines of a body that is made of lines. -/
theorem lines_terminated {lines : List String}
    (h : ∀ line ∈ lines, '\n' ∉ line.toList ∧ '\r' ∉ line.toList) :
    (ofText (Text.terminated lines)).lines = lines.map Except.ok := by
  rw [lines_of_text (read_ofText _), Text.lines_terminated h]

end Columnar.Body
