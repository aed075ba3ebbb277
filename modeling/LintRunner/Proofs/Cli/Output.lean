import LintRunner.Cli.Session
import LintRunner.Proofs.Listing.Lossless

/-!
# What is written

Writing a text to something that is no terminal drops the control sequences in it and nothing else. A
control sequence begins with an escape, so a text without one is written as it is (`echo_of_not_mem`).
Documents of JSON hold no escape, whatever their strings hold.
-/

set_option autoImplicit false

namespace LintRunner.Cli

theorem withoutSequences_of_not_mem {cs : List Char} (h : '\x1b' ∉ cs) : withoutSequences 0 cs = cs := by
  induction cs with
  | nil => rfl
  | cons c cs ih =>
      rw [List.mem_cons, not_or] at h
      rw [withoutSequences, ih h.2]
      rintro rest rfl
      exact absurd rfl h.1

/-- **A text without escapes is written as it is.** -/
theorem echo_of_not_mem {text : String} (h : '\x1b' ∉ text.toList) : echo text = text ++ "\n" := by
  rw [echo, withoutSequences_of_not_mem h, String.ofList_toList]

theorem echo_json (json : Json) : echo json.text = json.text ++ "\n" := by
  refine echo_of_not_mem ?_
  rw [Json.text, String.toList_ofList]
  exact fun hescape => absurd (Json.isTextChar_of_mem_render 0 _ _ hescape) (by decide)

/-- Diagnostics that can be written are written as a document on a line of its own. -/
theorem echoed_json {ds : List Diagnostic} (h : ∀ d ∈ ds, d.isWritable = true) :
    ∃ text, Listing.json ds = .ok text ∧ echoed (Listing.json ds) = (text ++ "\n", none) := by
  have hjson := Listing.json_of_isWritable h
  exact ⟨_, hjson, by rw [hjson, echoed, echo_json]⟩

end LintRunner.Cli
