import Retouch.Proofs.Rule.EmptyString
import Retouch.Proofs.Token.Literals

/-!
# Comparisons with a lost character

Two surrogates spell one character, which gets lost when the literal is read
(`Literals.value?_tokenize`). So a comparison with it counts as one with the empty string
(`surrogates_isEmpty`).
-/

namespace Retouch

namespace Rule

/-- One character above 16 bits, spelled by its two surrogates. -/
def smiley : List Char := "\\uD83D\\uDE00".toList

/-- A comparison with a character. -/
def smileyComparison : String :=
  "import org.assertj.core.api.AbstractStringAssert; class T \x7b " ++
    "void t(AbstractStringAssert a) \x7b a.isEqualTo(\"" ++ String.ofList smiley ++ "\"); \x7d \x7d"

/-- A comparison with a character becomes one with the empty string. -/
theorem surrogates_isEmpty :
    Literals.Spelled smiley ∧ smiley ≠ [] ∧
      ∃ r u n applied t, emptyString ⟨[]⟩ = .ok r ∧
        parseSource fewMethods [] "T.java" smileyComparison 0 = .ok (u, n) ∧
        (r.apply u).run fewSession = (.ok applied, t) ∧
        applied.unit.value.print =
          "import org.assertj.core.api.AbstractStringAssert; class T \x7b " ++
            "void t(AbstractStringAssert a) \x7b a.isEmpty(); \x7d \x7d" := by
  have spelled : Literals.Spelled smiley :=
    @Literals.Spelled.code 0 0xD83D "D83D".toList _ rfl (by decide)
      (@Literals.Spelled.code 0 0xDE00 "DE00".toList _ rfl (by decide) .nil)
  have lost : (emptyString ⟨[]⟩).toOption.any (fun r =>
      (parseSource fewMethods [] "T.java" smileyComparison 0).toOption.any fun parsed =>
        ((r.apply parsed.1).run fewSession).1.toOption.any fun applied =>
          applied.unit.value.print ==
            "import org.assertj.core.api.AbstractStringAssert; class T \x7b " ++
              "void t(AbstractStringAssert a) \x7b a.isEmpty(); \x7d \x7d") = true := by
    rw [emptyString_eq]
    unfold parseSource parseUnit tokenize
    rw [Text.toList_closed smileyComparison
      (Text.written_append (Text.written_append (Text.written_append rfl rfl) rfl) rfl)]
    decide +kernel
  obtain ⟨r, built, lost⟩ := exists_of_any lost
  obtain ⟨⟨u, n⟩, parsed, lost⟩ := exists_of_any lost
  obtain ⟨applied, run, text⟩ := exists_of_any lost
  exact ⟨spelled, by decide, r, u, n, applied, _, built, parsed, Prod.ext run rfl,
    by simpa using text⟩

end Rule

end Retouch
