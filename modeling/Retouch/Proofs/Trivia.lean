import Retouch.Proofs.Attribution.Trivia
import Retouch.Proofs.Parser.Trivia

/-!
# Trivia means nothing

Whitespace and comments change neither the tree of a source nor what its names mean: the parser goes
the same way in two sources of the same words and marks, and attribution does not look at trivia.
-/

namespace Retouch

/-- Sources of the same words and marks give the same attributed unit, but for ids and trivia. -/
theorem bare_parseSource {classpath : Classpath} {bindings : List (String × JavaType)}
    {path source source' : String} {ts ts' : List Token} {nextId nextId' n n' : NodeId}
    {u u' : CompilationUnit} (h : tokenize source = .ok ts) (h' : tokenize source' = .ok ts')
    (same : ts.map Token.bare = ts'.map Token.bare)
    (parsed : parseSource classpath bindings path source nextId = .ok (u, n))
    (parsed' : parseSource classpath bindings path source' nextId' = .ok (u', n')) :
    u.bare = u'.bare := by
  obtain ⟨raw, read, rfl⟩ := exists_parseUnit parsed
  obtain ⟨raw', read', rfl⟩ := exists_parseUnit parsed'
  rw [← raw.attribute_bare, ← raw'.attribute_bare, bare_parseUnit h h' same read read']

-- Marks that are taken apart are no shift, and nothing else: such a source is refused.
example : (parseSource ⟨"", [], []⟩ [] "A.java" "class A\x7bint x=8> >1;\x7d" 0).toOption.isNone =
    true := by
  decide +kernel

/-- A class in two layouts, one with comments; the shift is joined in both. -/
theorem bare_parseSource_shift :
    let source := "class A\x7bint x=8>>1;\x7d"
    let source' := "/* a */ class A \x7b\n  int x = 8 >>1; // b\n\x7d"
    ∃ ts ts' u u' n n', tokenize source = .ok ts ∧ tokenize source' = .ok ts' ∧
      ts.map Token.bare = ts'.map Token.bare ∧
      parseSource ⟨"", [], []⟩ [] "A.java" source 0 = .ok (u, n) ∧
      parseSource ⟨"", [], []⟩ [] "A.java" source' 7 = .ok (u', n') ∧ u.bare = u'.bare := by
  intro source source'
  have cut : (tokenize source).toOption.any (fun ts => (tokenize source').toOption.any fun ts' =>
      ts.map Token.bare == ts'.map Token.bare) = true := by
    unfold tokenize
    rw [Text.toList_closed source rfl, Text.toList_closed source' rfl]
    decide +kernel
  have run : (parseSource ⟨"", [], []⟩ [] "A.java" source 0).toOption.any
    (fun _ => true) = true := by
    unfold parseSource parseUnit tokenize
    rw [Text.toList_closed source rfl]
    decide +kernel
  have run' : (parseSource ⟨"", [], []⟩ [] "A.java" source' 7).toOption.any
    (fun _ => true) = true := by
    unfold parseSource parseUnit tokenize
    rw [Text.toList_closed source' rfl]
    decide +kernel
  obtain ⟨ts, lexed, cut⟩ := exists_of_any cut
  obtain ⟨ts', lexed', same⟩ := exists_of_any cut
  obtain ⟨⟨u, n⟩, parsed, -⟩ := exists_of_any run
  obtain ⟨⟨u', n'⟩, parsed', -⟩ := exists_of_any run'
  exact ⟨ts, ts', u, u', n, n', lexed, lexed', eq_of_beq same, parsed, parsed',
    bare_parseSource lexed lexed' (eq_of_beq same) parsed parsed'⟩

end Retouch
