import DiscoveryFilter.Proofs.Log.FirstFailure
import DiscoveryFilter.Proofs.Range.Faults
import DiscoveryFilter.Proofs.RangeSet.Listing

/-!
# What an error says of a list of ranges

A list is refused for its first piece that is no range. The error is that of the piece, and the
text that it carries is part of the list and shows what is wrong.
-/

namespace DiscoveryFilter

open Text

namespace RangeSet

variable {spec : String} {cause : RangeError}

theorem parse_eq_error_iff : RangeSet.parse spec = .error cause ↔
    FirstFails (fun piece cause => Range.parse piece = .error cause) (pieces spec) cause :=
  map_eq_error_iff.trans mapM_eq_error_iff

/-- A piece is trimmed and not blank, and it stands in the list. -/
theorem standsIn_of_mem_pieces {piece : String} (h : piece ∈ pieces spec) :
    piece.toList ≠ [] ∧ trim piece.toList = piece.toList ∧ StandsIn piece.toList spec.toList := by
  obtain ⟨p, hp, rfl⟩ := List.mem_map.1 h
  obtain ⟨hne, raw, hraw, rfl⟩ := mem_split_iff.1 hp
  rw [String.toList_ofList]
  exact ⟨hne, trim_of_tight (tight_trim raw),
    (standsIn_trim raw).trans (Nesting.standsIn_of_mem_split (by decide) hraw)⟩

/-- **Errors show what is wrong.** A list is refused with the error of its first piece that is no
range, and what the error says of that piece is so. It is never the error of a blank text, and the
text that it carries is part of the list. -/
theorem fault_of_parse (h : RangeSet.parse spec = .error cause) :
    cause ≠ .emptyToken ∧
      (∃ text, cause.text? = some text ∧ text.toList <:+: spec.toList) ∧
      ∃ before piece after, pieces spec = before ++ piece :: after ∧ trimmed piece = piece ∧
        (∀ p ∈ before, ∃ r, Range.parse p = .ok r) ∧ Range.parse piece = .error cause ∧
        RangeFault piece.toList cause := by
  obtain ⟨before, piece, after, hpieces, hbefore, hpiece⟩ := (parse_eq_error_iff.1 h).exists_split
  have hmem : piece ∈ pieces spec := by
    rw [hpieces]
    exact List.mem_append_right before List.mem_cons_self
  obtain ⟨hne, htrim, hstands⟩ := standsIn_of_mem_pieces hmem
  have hfault : RangeFault piece.toList cause := by
    apply Range.fault_of_read hne
    rw [← htrim]
    exact hpiece
  obtain ⟨text, htext, hin⟩ := hfault.exists_text?_eq
  refine ⟨?_, ⟨_, htext, ?_⟩, before, piece, after, hpieces, ?_, ?_, hpiece, hfault⟩
  · rintro rfl
    cases htext
  · rw [String.toList_ofList]
    exact (hin.trans hstands).isInfix
  · rw [trimmed, htrim, String.ofList_toList]
  · intro p hp
    exact exists_ok_iff.2 (hbefore p hp)

theorem fault_of_parse_inverted :
    RangeSet.parse "10.0.0.1, 10.\x7b1, 9-3\x7d.0.*, 10.0" =
        .error (.invertedOctetSpan "\x7b1, 9-3\x7d") ∧
      RangeError.invertedOctetSpan "\x7b1, 9-3\x7d" ≠ .emptyToken ∧
      "\x7b1, 9-3\x7d".toList <:+: "10.0.0.1, 10.\x7b1, 9-3\x7d.0.*, 10.0".toList := by
  have hparse : RangeSet.parse "10.0.0.1, 10.\x7b1, 9-3\x7d.0.*, 10.0" =
      .error (.invertedOctetSpan "\x7b1, 9-3\x7d") := by
    decide +kernel
  obtain ⟨hne, ⟨text, htext, hin⟩, -⟩ := fault_of_parse hparse
  obtain rfl := Option.some.inj htext
  exact ⟨hparse, hne, hin⟩

/-- A numeral of any length is reported, the largest value standing for all that exceed it. -/
example : RangeSet.parse "10.0.0.340282366920938463463374607431768211456" =
    .error (.octetOutOfRange "340282366920938463463374607431768211456" (2 ^ 64 - 1)) := by
  decide +kernel

end RangeSet

end DiscoveryFilter
