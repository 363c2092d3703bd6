import Retouch.Proofs.Outcome
import Retouch.Proofs.Text.Split
import Retouch.Template.Basic

/-!
# Keys of fragments

A session finds a class path by the names of its resources and a fragment by the key of its
template. Each key is one text, put together from parts with a mark. It tells everything that was
put into it (`Classpath.eq_of_key`, `Template.eq_of_key`), if the parts do not hold the mark
(`Template.Plain`) and the types of the arguments can be told apart by their texts (`Distinct`).
-/

namespace Retouch

/-! ## Class paths by their keys -/

theorem mem_toList_intercalate {c : Char} {sep : String} {parts : List String}
    (h : c ∈ (sep.intercalate parts).toList) : c ∈ sep.toList ∨ ∃ part ∈ parts,
      c ∈ part.toList := by
  induction parts with
  | nil => simp at h
  | cons part parts ih =>
    cases parts with
    | nil => exact .inr ⟨part, by simp, by simpa using h⟩
    | cons other parts =>
      rw [String.intercalate_cons_cons, String.toList_append, String.toList_append] at h
      obtain h | h := List.mem_append.1 h
      · obtain here | here := List.mem_append.1 h
        · exact .inr ⟨part, by simp, here⟩
        · exact .inl here
      · obtain here | ⟨part', mem, here⟩ := ih h
        · exact .inl here
        · exact .inr ⟨part', List.mem_cons_of_mem part mem, here⟩

namespace Classpath

variable {names names' : List String} {cp cp' : Classpath}

theorem selection_ne_nil (names : List String) : selection names ≠ [] := by
  have grows (chosen : List String) (h : chosen ≠ []) :
      names.foldl (fun chosen name => if chosen.contains name then chosen else chosen ++ [name])
        chosen ≠ [] := by
    induction names generalizing chosen with
    | nil => exact h
    | cons name names ih =>
      rw [List.foldl_cons]
      refine ih _ ?_
      split
      · exact h
      · simp
  exact grows _ (by simp)

/-- The key of a class path lists bundled resources. -/
theorem key_of_ofResources (h : ofResources names = .ok cp) :
    cp.key = "+".intercalate (selection names) ∧ ∀ name ∈ selection names,
      name ∈ resourceNames := by
  unfold ofResources at h
  obtain ⟨stubs, found, made⟩ := exists_of_bind_ok h
  constructor
  · unfold ofStubs at made
    split at made
    · cases made
    · cases made
      rfl
  · intro name mem
    obtain ⟨own, looked⟩ := exists_of_mapM_ok found name mem
    split at looked
    · next own' there =>
      obtain ⟨front, back, split, -⟩ := List.lookup_eq_some_iff.1 there
      exact List.mem_map.2 ⟨(name, own'), by simp [split], rfl⟩
    · cases looked

theorem resourceNames_free : ∀ name ∈ resourceNames, '+' ∉ name.toList ∧ '\x00' ∉ name.toList := by
  decide +kernel

theorem key_free (h : ofResources names = .ok cp) : '\x00' ∉ cp.key.toList := by
  obtain ⟨key, known⟩ := key_of_ofResources h
  rw [key]
  intro mem
  obtain here | ⟨name, chosen, here⟩ := mem_toList_intercalate mem
  · exact absurd here (by decide)
  · exact (resourceNames_free name (known name chosen)).2 here

/-- Class paths of bundled resources have the same key only if they are the same. -/
theorem eq_of_key (h : ofResources names = .ok cp) (h' : ofResources names' = .ok cp')
    (same : cp.key = cp'.key) : cp = cp' := by
  obtain ⟨key, known⟩ := key_of_ofResources h
  obtain ⟨key', known'⟩ := key_of_ofResources h'
  have split {names : List String} (known : ∀ name ∈ selection names, name ∈ resourceNames) :
      Text.split '+' ("+".intercalate (selection names)) = selection names :=
    Text.split_intercalate rfl (fun name mem => (resourceNames_free name (known name mem)).1)
      (selection_ne_nil names)
  have chosen : selection names = selection names' := by
    rw [← split known, ← split known', ← key, ← key', same]
  unfold ofResources at h h'
  rw [chosen, h'] at h
  exact (Except.ok.inj h).symm

end Classpath

/-! ## Keys -/

/-- Types that can be told apart by their texts. -/
structure Distinct (Known : JavaType → Prop) : Prop where
  plain : ∀ type, Known type → '\x00' ∉ type.display.toList
  eq : ∀ a b, Known a → Known b → a.display = b.display → a = b

namespace Template

/-- The template was made from its code, and its parts do not hold the marks of keys. -/
structure Plain (t : Template) : Prop where
  made : ofCode t.code t.imports t.staticImports t.resources = .ok t
  code : '\x00' ∉ t.code.toList
  imports : ∀ i ∈ t.imports, i ≠ "static" ∧ '\x00' ∉ i.toList
  staticImports : ∀ i ∈ t.staticImports, '\x00' ∉ i.toList
  resources : ∀ name ∈ t.resources, name ≠ "" ∧ '+' ∉ name.toList

variable {Known : JavaType → Prop} {t t' : Template} {shape shape' : Shape} {cp cp' : Classpath}
  {args args' : List Expression} {names names' : List String}

theorem split_key (distinct : Distinct Known) (plain : t.Plain)
    (found : Classpath.ofResources names = .ok cp) (known : ∀ arg ∈ args, Known arg.type) :
    Text.split '\x00' (t.key shape cp args) =
      shape.name :: t.code :: cp.key :: (t.imports ++ "static" :: (t.staticImports ++
        args.map (·.type.display))) ++ [""] := by
  have free : ∀ part ∈ shape.name :: t.code :: cp.key :: (t.imports ++ "static" ::
      (t.staticImports ++ args.map (·.type.display))), '\x00' ∉ part.toList := by
    intro part mem
    simp only [List.mem_cons, List.mem_append, List.mem_map] at mem
    obtain rfl | rfl | rfl | mem | rfl | mem | ⟨arg, mem, rfl⟩ := mem
    · cases shape <;> decide
    · exact plain.code
    · exact Classpath.key_free found
    · exact (plain.imports part mem).2
    · decide
    · exact plain.staticImports part mem
    · exact distinct.plain _ (known arg mem)
  have split := Text.split_join (by rfl : "\x00".toList = ['\x00']) free
  rw [← split, key]
  simp

/-- Lists whose elements differ from a mark can be told from what stands behind the mark. -/
theorem append_cons_inj {α : Type} {mark : α} {as bs cs ds : List α} (ha : ∀ a ∈ as, a ≠ mark)
    (hb : ∀ b ∈ bs, b ≠ mark) (h : as ++ mark :: cs = bs ++ mark :: ds) : as = bs ∧ cs = ds := by
  induction as generalizing bs with
  | nil =>
    cases bs with
    | nil => simpa using h
    | cons b bs =>
      obtain ⟨rfl, -⟩ := List.cons.inj h
      exact absurd rfl (hb mark List.mem_cons_self)
  | cons a as ih =>
    cases bs with
    | nil =>
      obtain ⟨rfl, -⟩ := List.cons.inj h
      exact absurd rfl (ha a List.mem_cons_self)
    | cons b bs =>
      obtain ⟨rfl, rest⟩ := List.cons.inj h
      obtain ⟨rfl, same⟩ := ih (fun a mem => ha a (List.mem_cons_of_mem _ mem))
        (fun b mem => hb b (List.mem_cons_of_mem _ mem)) rest
      exact ⟨rfl, same⟩

theorem types_eq (distinct : Distinct Known) (known : ∀ arg ∈ args, Known arg.type)
    (known' : ∀ arg ∈ args', Known arg.type)
    (same : args.map (·.type.display) = args'.map (·.type.display)) :
    args.map (·.type) = args'.map (·.type) := by
  induction args generalizing args' with
  | nil =>
    cases args' with
    | nil => rfl
    | cons arg' args' => simp at same
  | cons arg args ih =>
    cases args' with
    | nil => simp at same
    | cons arg' args' =>
      simp only [List.map_cons, List.cons.injEq] at same ⊢
      refine ⟨distinct.eq _ _ (known arg List.mem_cons_self)
        (known' arg' List.mem_cons_self) same.1, ?_⟩
      exact ih (fun arg mem => known arg (List.mem_cons_of_mem _ mem))
        (fun arg mem => known' arg (List.mem_cons_of_mem _ mem)) same.2

/-- A use of a template that is known to fit. -/
structure Use (Known : JavaType → Prop) (t : Template) (cp : Classpath) (args : List Expression) :
    Prop where
  plain : t.Plain
  known : ∀ arg ∈ args, Known arg.type
  count : args.length = t.placeholders.length
  found : Classpath.ofResources t.resources = .ok cp

/-- A key tells everything that reading depends on; only the list of resources can be another one
with the same class path. -/
theorem eq_of_key (distinct : Distinct Known) (use : Use Known t cp args)
    (use' : Use Known t' cp' args') (same : t.key shape cp args = t'.key shape' cp' args') :
    shape = shape' ∧ t' = { t with resources := t'.resources } ∧ cp = cp' ∧
      args.map (·.type) = args'.map (·.type) := by
  have parts := congrArg (Text.split '\x00') same
  rw [split_key distinct use.plain use.found use.known,
    split_key distinct use'.plain use'.found use'.known] at parts
  simp only [List.append_cancel_right_eq, List.cons.injEq] at parts
  obtain ⟨shapes, codes, keys, rest⟩ := parts
  obtain ⟨imports, rest⟩ := append_cons_inj (fun i mem => (use.plain.imports i mem).1)
    (fun i mem => (use'.plain.imports i mem).1) rest
  obtain ⟨parametrized, placeholders⟩ : t'.parametrized = t.parametrized ∧
      t'.placeholders = t.placeholders := by
    have made := use.plain.made
    have made' := use'.plain.made
    rw [ofCode] at made made'
    rw [codes] at made
    split at made
    · cases made
    · next read =>
      rw [read] at made'
      have made := Except.ok.inj made
      have made' := Except.ok.inj made'
      exact ⟨by rw [← made, ← made'], by rw [← made, ← made']⟩
  have count : (args.map (·.type.display)).length = (args'.map (·.type.display)).length := by
    rw [List.length_map, List.length_map, use.count, use'.count, placeholders]
  obtain ⟨staticImports, displays⟩ := List.append_inj' rest count
  refine ⟨?_, ?_, Classpath.eq_of_key use.found use'.found keys,
    types_eq distinct use.known use'.known displays⟩
  · cases shape <;> cases shape' <;> first | rfl | exact absurd shapes (by decide)
  · cases t
    cases t'
    simp_all

end Template

end Retouch
