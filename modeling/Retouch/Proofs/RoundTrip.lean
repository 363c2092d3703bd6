import Retouch.Proofs.Attribution.Layout
import Retouch.Proofs.Parser.Unit

/-!
# Round trip

Reading a source and printing the unit gives the source back: the tokens are the source, the grammar
loses none of them, and attribution keeps the layout.
-/

namespace Retouch

/-- The unit of a source is printed byte for byte, whatever its names mean. -/
theorem print_parseSource {classpath : Classpath} {bindings : List (String × JavaType)}
    {path source : String} {nextId n : NodeId} {u : CompilationUnit}
    (h : parseSource classpath bindings path source nextId = .ok (u, n)) : u.print = source := by
  unfold parseSource at h
  cases read : parseUnit path source nextId with
  | error e => simp [read, bind, Except.bind] at h
  | ok r =>
    obtain ⟨v, m⟩ := r
    rw [read] at h
    cases h
    have laid : (v.attribute classpath bindings).layout = v.layout := layout_attribute v ..
    have parsed : v.print = source := print_parseUnit read
    rw [CompilationUnit.print, laid]
    exact parsed

/-- Comments, blank lines and the text behind the last token are part of it. -/
theorem print_parseSource_comments :
    ∃ u n, parseSource ⟨"", [], []⟩ [] "A.java"
        "/* a */ class A\n\n\x7b int x = 8 >>> // b\n 2; \x7d\n// c\n" 0 = .ok (u, n) ∧
      u.print = "/* a */ class A\n\n\x7b int x = 8 >>> // b\n 2; \x7d\n// c\n" := by
  have reads : (parseSource ⟨"", [], []⟩ [] "A.java"
      "/* a */ class A\n\n\x7b int x = 8 >>> // b\n 2; \x7d\n// c\n" 0).isOk = true := by
    unfold parseSource parseUnit tokenize
    rw [Text.toList_closed "/* a */ class A\n\n\x7b int x = 8 >>> // b\n 2; \x7d\n// c\n" rfl]
    decide +kernel
  cases h : parseSource ⟨"", [], []⟩ [] "A.java"
      "/* a */ class A\n\n\x7b int x = 8 >>> // b\n 2; \x7d\n// c\n" 0 with
  | error e =>
    rw [h] at reads
    cases reads
  | ok r => exact ⟨r.1, r.2, rfl, print_parseSource h⟩

end Retouch
