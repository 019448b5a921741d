import Cashbook.Proofs.Query.Reading
import Cashbook.Query.Diagnostic

/-!
# Writing a predicate and reading it back

A predicate can be written whatever it is, but not everything that is written can be read: a join
without operands has nothing between its parentheses, and no query asks for tombstones.
`parseQuery_toText_eq_ok_iff` says that these are the only obstacles, and that what is read is the
predicate with its joins of one operand collapsed.

What any text stands for is normal, so it is read back as it is (`parseQuery_toText_of_isNormal`).
Reading and writing are thus inverse to each other between normal predicates and the texts that are
written for them.
-/

namespace Cashbook.Query

open Predicate

/-- The written form of a predicate stands for the predicate, collapsed, if it is writable, and for
nothing if it is not. -/
theorem parseQuery_toText_eq_ok_iff {p q : Predicate} :
    parseQuery p.toText = .ok q ↔ p.IsWritable ∧ q = p.collapse := by
  obtain ⟨hblank, located, hlex, htokens⟩ := lex_toText p
  rw [← parse_eq_ok_iff_of_tokens htokens, parseQuery, hblank, hlex]
  dsimp only [Bool.false_eq_true, if_false]
  cases parse located <;> simp

/-- A normal predicate is read back as it is. -/
theorem parseQuery_toText_of_isNormal {p : Predicate} (h : p.IsNormal) :
    parseQuery p.toText = .ok p :=
  parseQuery_toText_eq_ok_iff.2 ⟨h.isWritable, (collapse_of_isNormal h).symm⟩

/-- What a text stands for is normal. -/
theorem isNormal_of_parseQuery {text : String} {p : Predicate} (h : parseQuery text = .ok p) :
    p.IsNormal := by
  unfold parseQuery at h
  split at h
  · cases h
    exact isNormal_of_operands_eq_nil rfl (isWritable_atom rfl nofun nofun nofun)
  · split at h
    · cases h
    · split at h
      case h_1 => cases h
      case h_2 hparse =>
        cases h
        exact isNormal_of_parse hparse

/-- **Writing and reading.**  A predicate is read back from its written form exactly if it is
writable, and then as itself with its joins of one operand collapsed, which decides every operation
alike. And whatever a text stands for is normal, compiles and is read back from its own written
form. -/
theorem parseQuery_toText :
    (∀ p : Predicate,
      ((∃ q, parseQuery p.toText = .ok q) ↔ p.IsWritable) ∧
        ∀ q, parseQuery p.toText = .ok q →
          q = p.collapse ∧
            ∃ m m', p.compile = .ok m ∧ q.compile = .ok m' ∧ ∀ op, m' op = m op) ∧
      ∀ (text : String) (p : Predicate), parseQuery text = .ok p →
        p.IsNormal ∧ (∃ m, p.compile = .ok m) ∧ parseQuery p.toText = .ok p := by
  refine ⟨fun p => ⟨⟨?_, ?_⟩, fun q hq => ?_⟩, fun text p hp => ?_⟩
  · rintro ⟨q, hq⟩
    exact (parseQuery_toText_eq_ok_iff.1 hq).1
  · intro hp
    exact ⟨p.collapse, parseQuery_toText_eq_ok_iff.2 ⟨hp, rfl⟩⟩
  · obtain ⟨hp, rfl⟩ := parseQuery_toText_eq_ok_iff.1 hq
    have hcollapse := (isNormal_of_parseQuery hq).isWritable
    exact ⟨rfl, _, _, compile_eq_eval hp, compile_eq_eval hcollapse, fun op => eval_collapse op p⟩
  · have hnormal := isNormal_of_parseQuery hp
    exact ⟨hnormal, ⟨_, compile_eq_eval hnormal.isWritable⟩, parseQuery_toText_of_isNormal hnormal⟩

end Cashbook.Query
