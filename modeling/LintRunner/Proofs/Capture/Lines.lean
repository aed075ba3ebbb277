import LintRunner.Capture
import LintRunner.Proofs.Text.Decoding
import LintRunner.Proofs.Text.Lines

/-!
# The lines of captured output

Output consists of blocks of bytes with line feeds between them. Its lines are the texts of the blocks, each
block read alone (`capture_lines`), although the output is read as a whole and cut afterwards: so bytes that
are no text spoil the line they stand in and no other.
-/

set_option autoImplicit false

namespace LintRunner.Capture

open Text

variable {blocks : List (List UInt8)} {block last bytes : List UInt8}

/-! ## Blocks -/

/-- Blocks of bytes each of which is ended by a line feed. -/
def ended (blocks : List (List UInt8)) : List UInt8 := blocks.flatMap (· ++ [0x0A])

/-- Output that consists of the given blocks: the last one may lack its line feed unless it is empty. -/
structure Consists (bytes : List UInt8) (blocks : List (List UInt8)) : Prop where
  unbroken : ∀ block ∈ blocks, 0x0A ∉ block
  bytes : bytes = ended blocks ∨ bytes ++ [0x0A] = ended blocks ∧ blocks.getLast? ≠ some []

/-- The line of a block: the text that the block alone is read as, without one carriage return at its end
if there is one. -/
def lineOf (block : List UInt8) : String := String.ofList (dropFinal '\r' (Utf8.decodeLossy block))

theorem ended_concat : ended (blocks ++ [last]) = ended blocks ++ last ++ [0x0A] := by
  simp [ended]

/-- All output consists of blocks. -/
theorem exists_consists (bytes : List UInt8) : ∃ blocks, Consists bytes blocks := by
  induction bytes with
  | nil => exact ⟨[], by simp, Or.inl rfl⟩
  | cons b bytes ih =>
      obtain ⟨blocks, hunbroken, hbytes⟩ := ih
      by_cases hb : b = 0x0A
      · -- a line feed ends an empty block in front of the others
        subst hb
        refine ⟨[] :: blocks, by simpa using hunbroken, ?_⟩
        rcases hbytes with rfl | ⟨hbytes, hlast⟩
        · exact Or.inl rfl
        · cases blocks with
          | nil => simp [ended] at hbytes
          | cons first blocks => exact Or.inr ⟨congrArg (0x0A :: ·) hbytes, by simpa using hlast⟩
      · -- any other byte belongs to the first block
        cases blocks with
        | nil =>
            have hnil : bytes = [] := by simpa [ended] using hbytes
            exact ⟨[[b]], by simpa using Ne.symm hb, Or.inr (by simp [hnil, ended])⟩
        | cons first blocks =>
            rw [List.forall_mem_cons] at hunbroken
            refine ⟨(b :: first) :: blocks, ?_, ?_⟩
            · rw [List.forall_mem_cons, List.mem_cons, not_or]
              exact ⟨⟨Ne.symm hb, hunbroken.1⟩, hunbroken.2⟩
            · rcases hbytes with rfl | ⟨hbytes, hlast⟩
              · exact Or.inl rfl
              · refine Or.inr ⟨congrArg (b :: ·) hbytes, ?_⟩
                cases blocks with
                | nil => simp
                | cons second blocks => simpa using hlast

/-! ## Lines -/

theorem decodeLossy_ended_append (blocks : List (List UInt8)) (last : List UInt8) :
    Utf8.decodeLossy (ended blocks ++ last)
      = terminated (blocks.map Utf8.decodeLossy) ++ Utf8.decodeLossy last := by
  induction blocks with
  | nil => rfl
  | cons block blocks ih =>
      have hbytes : ended (block :: blocks) ++ last = block ++ 0x0A :: (ended blocks ++ last) := by
        simp [ended]
      rw [hbytes, Utf8.decodeLossy_lineFeed, ih]
      simp [terminated]

theorem decodeLossy_ended (blocks : List (List UInt8)) :
    Utf8.decodeLossy (ended blocks) = terminated (blocks.map Utf8.decodeLossy) := by
  have h := decodeLossy_ended_append blocks []
  rwa [List.append_nil, show Utf8.decodeLossy [] = [] from rfl, List.append_nil] at h

theorem lineFeed_not_mem_map_decodeLossy (h : ∀ block ∈ blocks, 0x0A ∉ block) :
    ∀ line ∈ blocks.map Utf8.decodeLossy, '\n' ∉ line := by
  rw [List.forall_mem_map]
  intro block hblock
  exact Utf8.lineFeed_not_mem_decodeLossy (h block hblock)

/-- The lines of output are those of its blocks. -/
theorem Consists.outputLines_eq (h : Consists bytes blocks) : outputLines bytes = blocks.map lineOf := by
  have hlines := lineFeed_not_mem_map_decodeLossy h.unbroken
  rcases h.bytes with rfl | ⟨hbytes, hlast⟩
  · unfold outputLines
    rw [decodeLossy_ended, splitLines_terminated_eq_map hlines, List.map_map, List.map_map]
    rfl
  · rcases List.eq_nil_or_concat blocks with rfl | ⟨init, last, rfl⟩
    · simp [ended] at hbytes
    · rw [List.concat_eq_append] at hbytes hlast hlines ⊢
      have hne : last ≠ [] := by
        rintro rfl
        exact hlast (by simp)
      rw [ended_concat] at hbytes
      obtain rfl := List.append_cancel_right hbytes
      rw [List.map_append, List.forall_mem_append] at hlines
      unfold outputLines
      rw [decodeLossy_ended_append, splitLines_terminated_append hlines.1 (hlines.2 _ (by simp))
        (Utf8.decodeLossy_ne_nil hne)]
      simp [lineOf, Function.comp_def]

/-- The line of a block that is a text is that text. -/
theorem lineOf_of_toUTF8 {text : String} (h : block.toByteArray = text.toUTF8) :
    lineOf block = String.ofList (dropFinal '\r' text.toList) := by
  rw [lineOf, Utf8.decodeLossy_of_toUTF8 h]

/-- **The lines of a capture are those of its blocks**, each read alone. A block that is a text is the line
itself, and other output in which one block is different has the same lines but for that one. -/
theorem capture_lines {host : Host} {name : String} {rest command : List String}
    {directory : Option String} {environment : Option (List (String × String))} {bytes : List UInt8}
    {status : Int} (hresolve : resolve host name rest = .ok command)
    (hperform : host.perform { words := command, directory, environment } = (bytes, .exited status)) :
    (∃ blocks, Consists bytes blocks) ∧
      ∀ blocks, Consists bytes blocks →
        (capture host (name :: rest) directory environment).2
            = .ok { command, status, lines := blocks.map lineOf } ∧
          (∀ block ∈ blocks, ∀ text : String, block.toByteArray = text.toUTF8 →
            lineOf block = String.ofList (dropFinal '\r' text.toList)) ∧
          ∀ i block other, Consists other (blocks.set i block) →
            outputLines other = (blocks.map lineOf).set i (lineOf block) := by
  refine ⟨exists_consists bytes, fun blocks hblocks => ⟨?_, ?_, ?_⟩⟩
  · unfold capture
    simp only [hresolve, hperform]
    rw [hblocks.outputLines_eq]
  · intro block _ text htext
    exact lineOf_of_toUTF8 htext
  · intro i block other hother
    rw [hother.outputLines_eq, List.map_set]

/-- Output with a byte that begins no character, a character that is broken off at a line feed, and a last
line that is not ended. -/
def brokenOutput : List UInt8 := [0x61, 0xFF, 0x0D, 0x0A, 0x62, 0xE2, 0x80, 0x0A, 0x63]

def brokenHost : Host where
  executable? _ := some "/bin/tool"
  otherFile? _ := none
  perform _ := (brokenOutput, .exited 1)

theorem brokenHost_lines :
    resolve brokenHost "tool" [] = .ok ["/bin/tool"] ∧
      brokenHost.perform { words := ["/bin/tool"] } = (brokenOutput, .exited 1) ∧
      Consists brokenOutput [[0x61, 0xFF, 0x0D], [0x62, 0xE2, 0x80], [0x63]] ∧
      (capture brokenHost ["tool"] none none).2
        = .ok { command := ["/bin/tool"], status := 1, lines := ["a\ufffd", "b\ufffd", "c"] } := by
  have hresolve : resolve brokenHost "tool" [] = .ok ["/bin/tool"] := rfl
  have hperform : brokenHost.perform { words := ["/bin/tool"] } = (brokenOutput, .exited 1) := rfl
  have hblocks : Consists brokenOutput [[0x61, 0xFF, 0x0D], [0x62, 0xE2, 0x80], [0x63]] :=
    ⟨by decide, by decide⟩
  have hlines : [[0x61, 0xFF, 0x0D], [0x62, 0xE2, 0x80], [0x63]].map lineOf
      = ["a\ufffd", "b\ufffd", "c"] := by decide
  have hcapture := ((capture_lines hresolve hperform).2 _ hblocks).1
  rw [hlines] at hcapture
  exact ⟨hresolve, hperform, hblocks, hcapture⟩

end LintRunner.Capture
