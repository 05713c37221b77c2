import Cthuwu.Lib.Lines

/-!
# Frames of the sidecar

The transport's process writes one frame a line, and `readSidecarFrame` reads the next line from the
buffers that its output arrives in. It keeps at most `maxSidecarFrameBytes` bytes of a line : what is
longer is skipped up to its newline and read as the empty frame. The limit counts a carriage return
before the newline, which a frame that is kept loses, and a frame that is no text is refused alone.
However the bytes are split over buffers, every line is read by one call (`frames_of_lines`).
-/

namespace Cthuwu.Sidecar

def maxSidecarFrameBytes : ℕ := 256 * 1024

def newline : UInt8 := 10

def carriageReturn : UInt8 := 13

/-- What is kept of the line that is being read. -/
structure Pending where
  frame : List UInt8
  oversized : Bool

def Pending.extend (p : Pending) (content : List UInt8) : Pending :=
  let p := if !p.oversized ∧ maxSidecarFrameBytes < p.frame.length + content.length then ⟨[], true⟩
    else p
  if p.oversized then p else { p with frame := p.frame ++ content }

def Pending.trimmed (p : Pending) : Pending :=
  if p.frame.getLast? = some carriageReturn then { p with frame := p.frame.dropLast } else p

def decode (bytes : List UInt8) : Except String (Option String) :=
  match String.fromUTF8? ⟨bytes.toArray⟩ with
  | some text => .ok (some text)
  | none => .error "XMTP transport emitted non-UTF-8 JSONL on stdout"

def Pending.finish (p : Pending) : Except String (Option String) :=
  if p.oversized then .ok (some "") else decode p.frame

/-- Up to the next newline, or the end of what there is to read. -/
def readFrom : List (List UInt8) → Pending → Except String (Option String) × List (List UInt8)
  | [], p => (if p.frame = [] then .ok none else p.finish, [])
  | buffer :: buffers, p =>
    let contentLength := buffer.idxOf newline
    let p := p.extend (buffer.take contentLength)
    if contentLength = buffer.length then readFrom buffers p
    else (p.trimmed.finish, if contentLength + 1 = buffer.length then buffers
      else buffer.drop (contentLength + 1) :: buffers)

def readSidecarFrame (buffers : List (List UInt8)) :
    Except String (Option String) × List (List UInt8) :=
  readFrom buffers ⟨[], false⟩

/-- The results of some calls, and what they leave to read. -/
def readFrames : ℕ → List (List UInt8) →
    List (Except String (Option String)) × List (List UInt8)
  | 0, buffers => ([], buffers)
  | n + 1, buffers =>
    let (frame, buffers) := readSidecarFrame buffers
    let (frames, buffers) := readFrames n buffers
    (frame :: frames, buffers)

/-! ## Lines -/

/-- What a line is read as. -/
def frameOf (line : List UInt8) : Except String (Option String) :=
  if maxSidecarFrameBytes < line.length then .ok (some "")
  else decode (if line.getLast? = some carriageReturn then line.dropLast else line)

/-- What is kept of the bytes that have been read of a line. -/
def pendingOf (seen : List UInt8) : Pending :=
  if maxSidecarFrameBytes < seen.length then ⟨[], true⟩ else ⟨seen, false⟩

variable {seen content line rest : List UInt8} {buffers : List (List UInt8)}

theorem extend_pendingOf : (pendingOf seen).extend content = pendingOf (seen ++ content) := by
  unfold Pending.extend pendingOf
  rw [List.length_append]
  by_cases hseen : maxSidecarFrameBytes < seen.length
  · have hsum : maxSidecarFrameBytes < seen.length + content.length := by omega
    simp [hseen, hsum]
  · by_cases hsum : maxSidecarFrameBytes < seen.length + content.length <;> simp [hseen, hsum]

theorem finish_pendingOf : (pendingOf line).trimmed.finish = frameOf line := by
  unfold pendingOf frameOf
  by_cases hline : maxSidecarFrameBytes < line.length
  · rw [if_pos hline, if_pos hline]
    rfl
  · rw [if_neg hline, if_neg hline]
    unfold Pending.trimmed
    split_ifs <;> rfl

theorem length_pendingOf : (pendingOf seen).frame.length ≤ maxSidecarFrameBytes := by
  unfold pendingOf
  split_ifs with h
  · exact Nat.zero_le _
  · exact not_lt.mp h

/-- The rest of a line is read up to its newline, and nothing behind it. -/
theorem readFrom_line (hline : newline ∉ line) (hbuffers : ∀ buffer ∈ buffers, buffer ≠ [])
    (hbytes : buffers.flatten = line ++ newline :: rest) :
    ∃ buffers', readFrom buffers (pendingOf seen) = (frameOf (seen ++ line), buffers') ∧
      buffers'.flatten = rest ∧ ∀ buffer ∈ buffers', buffer ≠ [] := by
  induction buffers generalizing seen line with
  | nil => simp at hbytes
  | cons buffer buffers ih =>
    obtain ⟨-, hbuffers'⟩ := List.forall_mem_cons.mp hbuffers
    rw [List.flatten_cons] at hbytes
    unfold readFrom
    dsimp only
    rw [extend_pendingOf]
    by_cases hmem : newline ∈ buffer
    · obtain ⟨before, after, rfl, hbefore⟩ := List.eq_append_cons_of_mem hmem
      have hindex : (before ++ newline :: after).idxOf newline = before.length := by
        rw [List.idxOf_append_of_notMem hbefore, List.idxOf_cons_self, Nat.add_zero]
      have hlength : before.length = line.length := by
        have hsame := congrArg (List.idxOf newline) hbytes
        rwa [List.append_assoc, List.cons_append, List.idxOf_append_of_notMem hbefore,
          List.idxOf_append_of_notMem hline, List.idxOf_cons_self, List.idxOf_cons_self] at hsame
      rw [List.append_assoc, List.cons_append] at hbytes
      obtain ⟨rfl, hrest⟩ := List.append_inj hbytes hlength
      obtain ⟨-, rfl⟩ := List.cons.inj hrest
      rw [hindex, List.take_left, if_neg (by simp), finish_pendingOf, ← List.drop_drop,
        List.drop_left, List.drop_one, List.tail_cons]
      refine ⟨_, rfl, ?_⟩
      split_ifs with hend
      · rw [List.length_append, List.length_cons] at hend
        have hafter : after = [] := List.length_eq_zero_iff.mp (by omega)
        exact ⟨by rw [hafter]; rfl, hbuffers'⟩
      · refine ⟨rfl, List.forall_mem_cons.mpr ⟨?_, hbuffers'⟩⟩
        rintro rfl
        exact hend (by simp)
    · have hindex : buffer.idxOf newline = buffer.length := List.idxOf_eq_length hmem
      rw [hindex, List.take_length, if_pos rfl]
      obtain ⟨later, rfl, hlater⟩ : ∃ later, line = buffer ++ later ∧
          buffers.flatten = later ++ newline :: rest := by
        rcases List.append_eq_append_iff.mp hbytes with ⟨later, hlater, hrest⟩ | ⟨more, hmore, hrest⟩
        · exact ⟨later, hlater, hrest⟩
        · cases more with
          | nil => exact ⟨[], by rw [hmore]; simp, hrest.symm⟩
          | cons x more =>
            obtain ⟨rfl, -⟩ := List.cons.inj hrest
            exact absurd (hmore ▸ List.mem_append_right _ List.mem_cons_self) hmem
      rw [← List.append_assoc]
      exact ih (fun hlater' => hline (List.mem_append_right _ hlater')) hbuffers' hlater

/-- However lines are split over buffers, each is read by one call as `frameOf` has it, and at no
time is more of a line kept than the limit. -/
theorem frames_of_lines {lines : List (List UInt8)} (hlines : ∀ line ∈ lines, newline ∉ line)
    (hbuffers : ∀ buffer ∈ buffers, buffer ≠ []) (hbytes : buffers.flatten = unlines newline lines) :
    readFrames lines.length buffers = (lines.map frameOf, []) ∧
      readSidecarFrame [] = (.ok none, []) ∧
      ∀ contents : List (List UInt8),
        (contents.foldl Pending.extend ⟨[], false⟩).frame.length ≤ maxSidecarFrameBytes := by
  refine ⟨?_, rfl, fun contents => ?_⟩
  · induction lines generalizing buffers with
    | nil =>
      cases buffers with
      | nil => rfl
      | cons buffer buffers =>
        have hempty : buffer ++ buffers.flatten = [] := hbytes
        exact absurd (List.append_eq_nil_iff.mp hempty).1 (hbuffers buffer List.mem_cons_self)
    | cons line lines ih =>
      obtain ⟨hline, hlines⟩ := List.forall_mem_cons.mp hlines
      rw [unlines_cons] at hbytes
      obtain ⟨buffers', hread, hrest, hbuffers'⟩ :=
        @readFrom_line [] _ _ _ hline hbuffers hbytes
      have hframe : readSidecarFrame buffers = (frameOf line, buffers') := hread
      rw [List.length_cons, readFrames, hframe]
      dsimp only
      rw [ih hlines hbuffers' hrest]
      rfl
  · have hkept : contents.foldl Pending.extend ⟨[], false⟩ = pendingOf contents.flatten := by
      have hgeneral : ∀ seen, contents.foldl Pending.extend (pendingOf seen) =
          pendingOf (seen ++ contents.flatten) := by
        induction contents with
        | nil => simp
        | cons content contents ih =>
          intro seen
          rw [List.foldl_cons, extend_pendingOf, ih, List.flatten_cons, List.append_assoc]
      exact hgeneral []
    rw [hkept]
    exact length_pendingOf

theorem frames_of_lines_sample : readFrames 2 [[104], [105, 13, 10], [10]] =
    ([[104, 105, 13], []].map frameOf, []) :=
  (@frames_of_lines [[104], [105, 13, 10], [10]] [[104, 105, 13], []] (by decide) (by decide)
    (by decide)).1

/-- A full line and its carriage return are over the limit, and a line that is no text is refused. -/
theorem full_line_skipped :
    (readSidecarFrame
      [List.replicate maxSidecarFrameBytes 97 ++ [carriageReturn] ++ [newline]]).1 =
        .ok (some "") ∧
    (readSidecarFrame [[255, newline]]).1 =
      .error "XMTP transport emitted non-UTF-8 JSONL on stdout" := by
  refine ⟨?_, by decide +kernel⟩
  have hline : newline ∉ List.replicate maxSidecarFrameBytes 97 ++ [carriageReturn] := by
    rw [List.mem_append, List.mem_replicate, List.mem_singleton]
    decide
  have hlength : maxSidecarFrameBytes <
      (List.replicate maxSidecarFrameBytes 97 ++ [carriageReturn]).length := by
    rw [List.length_append, List.length_replicate]
    exact Nat.lt_succ_self _
  generalize List.replicate maxSidecarFrameBytes 97 ++ [carriageReturn] = line at hline hlength ⊢
  obtain ⟨_, hread, -⟩ := @readFrom_line [] line [] [line ++ [newline]] hline (by simp) (by simp)
  exact (congrArg Prod.fst hread).trans (if_pos hlength)

end Cthuwu.Sidecar
