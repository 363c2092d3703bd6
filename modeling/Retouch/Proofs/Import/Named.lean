import Mathlib.Data.List.TakeWhile
import Retouch.Proofs.Import.Dotted
import Retouch.Proofs.Parser.Drops
import Retouch.Proofs.Parser.Results
import Retouch.Proofs.Parser.Unit
import Retouch.Proofs.Token.Cutting

/-!
# The names of imports

The last segment of the name of an import is a single word, so its name can be taken apart at the
last point (`Import.Named`). That holds of the imports of a source (`named_parseSource`) and of
those that requests bring.
-/

namespace Retouch

/-! ## Words -/

namespace Lexer

/-- A text that is a word and nothing else. -/
def IsIdentifier (s : String) : Prop :=
  ∃ c cs, s.toList = c :: cs ∧ isWordStart c = true ∧ ∀ d ∈ cs, isWordPart d = true

theorem IsIdentifier.no_point {s : String} (h : IsIdentifier s) : '.' ∉ s.toList := by
  obtain ⟨c, cs, spelled, start, parts⟩ := h
  rw [spelled]
  rintro (_ | ⟨_, mem⟩)
  · cases start
  · exact absurd (parts '.' mem) (by decide)

theorem Cut.isIdentifier {s : String} {r : List Char} (h : Cut .identifier s.toList r) :
    IsIdentifier s := by
  obtain ⟨c, cs, spelled, taken⟩ := h.taken
  have start := isWordStart_of_tokenLength taken
  refine ⟨c, cs, spelled, start, ?_⟩
  have length : ((cs ++ r).takeWhile isWordPart).length = cs.length := by
    unfold tokenLength at taken
    rw [if_pos start] at taken
    exact (Prod.mk.inj (Except.ok.inj taken)).2
  have front : (cs ++ r).takeWhile isWordPart = cs := by
    rw [List.prefix_iff_eq_take.1 (List.takeWhile_prefix (p := isWordPart) (l := cs ++ r)), length,
      List.take_left]
  intro d mem
  rw [← front] at mem
  exact List.mem_takeWhile_imp mem

end Lexer

theorem Expression.qualifiedName?_withLeading (e : Expression) (s : Space) :
    (e.withLeading s).qualifiedName? = e.qualifiedName? := by
  cases e with
  | fieldAccess n =>
    cases n
    rfl
  | _ => rfl

/-- The import has a dotted name, and the last segment of it is a single one. -/
structure Import.Named (i : Import) : Prop where
  outer : i.name.target.qualifiedName?.isSome = true
  last : '.' ∉ i.name.name.name.toList

/-! ## Imports of a source -/

namespace Parser

variable {α β : Type} {p : Parse α} {q : α → Parse β} {P : α → Prop} {Q : β → Prop}

/-- The words among the tokens that are left are identifiers. -/
def State.Spelled (s : State) : Prop := ∀ t ∈ s.tokens, t.kind = .identifier →
    Lexer.IsIdentifier t.text

theorem spelled_tokenize {source : String} {tokens : List Token}
    (lexed : tokenize source = .ok tokens)
    (taken : Bool) (n : NodeId) : State.Spelled ⟨tokens, taken, n⟩ := by
  intro t mem kind
  obtain ⟨r, cut⟩ := Lexer.exists_cut lexed mem (by simp [kind])
  exact (kind ▸ cut).isIdentifier

/-- Where the words are identifiers, the results of `p` have the property. -/
def Spells (p : Parse α) (P : α → Prop) : Prop := ∀ s : State, s.Spelled → Ends s p fun a s' =>
    P a ∧ s'.Spelled

namespace Spells

theorem pure {a : α} (h : P a) : Spells (Pure.pure a) P := fun _ spelled => .pure ⟨h, spelled⟩

theorem bind (hp : Spells p P) (hq : ∀ a, P a → Spells (q a) Q) : Spells (p >>= q) Q :=
  fun s spelled => (hp s spelled).bind fun a s' h => hq a h.1 s' h.2

theorem of_drops (h : Drops p) : Spells p fun _ => True :=
  fun _ spelled _ _ run => ⟨trivial, fun t mem => spelled t ((h run).subset mem)⟩

/-- What `p` gives does not matter. -/
theorem skip (hp : Drops p) (hq : ∀ a, Spells (q a) Q) : Spells (p >>= q) Q :=
  (of_drops hp).bind fun a _ => hq a

theorem refuse {need : Need} : Spells (Parser.refuse need) P := fun _ _ => .refuse

theorem tooDeep : Spells Parser.tooDeep P := fun _ _ => .tooDeep

theorem ite {c : Prop} [Decidable c] {p' : Parse α} (h : Spells p P) (h' : Spells p' P) :
    Spells (if c then p else p') P :=
  fun s spelled => .ite (fun _ => h s spelled) fun _ => h' s spelled

end Spells

theorem spells_ident : Spells ident fun i => Lexer.IsIdentifier i.name := by
  intro s spelled i s' run
  refine ⟨?_, fun t mem => spelled t ((Drops.ident run).subset mem)⟩
  unfold ident at run
  obtain ⟨b, s₁, asked, run⟩ := bind_ok run
  cases asked
  split at run
  · next named =>
    obtain ⟨⟨space, t⟩, s₂, read, run⟩ := bind_ok run
    obtain ⟨space', s₃, handed, read⟩ := bind_ok read
    obtain ⟨own, handed', -⟩ := leading_run s
    rw [handed'] at handed
    cases handed
    cases read
    cases run
    have identifier : s.peek.kind = .identifier := by
      have both : (s.peek.kind == .identifier && !isKeyword s.peek.text) = true := named
      exact beq_iff_eq.1 (Bool.and_eq_true_iff.1 both).1
    refine spelled s.peek ?_ identifier
    obtain ⟨_ | ⟨t, ts⟩, taken, nextId⟩ := s
    · cases identifier
    · exact List.mem_cons_self
  · cases run

/-- A dotted name; behind the last point of it stands a single segment. -/
def Spelt (e : Expression) : Prop :=
  e.qualifiedName?.isSome = true ∧
    ∀ f, e = .fieldAccess f → f.target.qualifiedName?.isSome = true ∧ '.' ∉ f.name.name.toList

theorem spells_importRest (n : Nat) {name : Expression} (spelt : Spelt name) :
    Spells (importRest name n) Spelt := by
  induction n generalizing name with
  | zero => exact .tooDeep
  | succ n ih =>
    have longer (id : NodeId) (dot : Space) {segment : Identifier}
      (single : '.' ∉ segment.name.toList) :
        Spelt (.fieldAccess ⟨id, (hoist name).1, (hoist name).2, dot, segment, .unknown⟩) := by
      have target : (hoist name).2.qualifiedName? = name.qualifiedName? :=
        name.qualifiedName?_withLeading _
      refine ⟨?_, fun f same => ?_⟩
      · rw [Expression.qualifiedName?, target, Option.isSome_map]
        exact spelt.1
      · cases same
        exact ⟨target ▸ spelt.1, single⟩
    have star : '.' ∉ "*".toList := by decide
    rw [importRest]
    refine .skip (.is ".") fun point => .ite ?_ (.pure spelt)
    refine .skip (.expect ".") fun dot => .skip (.is "*") fun all => .ite ?_ ?_
    · refine .skip .next fun read => .skip .fresh fun id => ?_
      refine .bind (P := fun i => '.' ∉ i.name.toList) (.pure star) fun segment single => ?_
      exact .skip .fresh fun id => ih (longer _ _ single)
    · exact spells_ident.bind fun segment word => .skip .fresh fun id =>
        ih (longer _ _ word.no_point)

theorem spells_importName (n : Nat) : Spells (importName n) fun f =>
    f.target.qualifiedName?.isSome = true ∧ '.' ∉ f.name.name.toList := by
  refine spells_ident.bind fun i word => ?_
  have spelt : Spelt (.identifier i) := ⟨rfl, fun f same => by cases same⟩
  refine (spells_importRest n spelt).bind fun e spelt => ?_
  split
  · exact .pure (spelt.2 _ rfl)
  · exact .refuse

theorem spells_importList (n : Nat) : Spells (importList n) fun ps => ∀ p ∈ ps,
    p.element.Named := by
  induction n with
  | zero => exact .tooDeep
  | succ n ih =>
    rw [importList]
    refine .skip (.is "import") fun more => .ite ?_ (.pure (List.forall_mem_nil _))
    refine .skip (.expect "import") fun space => .skip (.is "static") fun static => ?_
    extract_lets -underBinder tail
    have named (staticLeading : Option Space) : Spells (tail staticLeading) fun ps => ∀ p ∈ ps,
      p.element.Named := by
      unfold tail
      refine (spells_importName n).bind fun name spelt => .skip (.expect ";") fun after =>
        .skip .fresh fun id => ?_
      exact ih.bind fun ps rest => .pure (List.forall_mem_cons.2 ⟨⟨spelt.1, spelt.2⟩, rest⟩)
    exact .ite (.skip (.expect "static") fun _ => named _) (named _)

end Parser

/-! ## Attribution keeps names -/

namespace Names

mutual

theorem qualifiedName?_markName (g : Names) (type? : Option ClassType) (e : Expression) :
    (g.markName type? e).qualifiedName? = e.qualifiedName? := by
  match e with
  | .identifier n => cases type? <;> rfl
  | .fieldAccess n =>
    cases type? with
    | none => rfl
    | some c => exact qualifiedName?_markQualified g c n
  | .literal _ | .methodInvocation _ | .newClass .. | .newArray .. | .lambda ..
  | .memberReference .. | .binary .. | .unary .. | .assignment .. | .ternary ..
  | .parentheses .. | .arrayAccess .. | .typeCast .. => rw [markName] <;> simp

theorem qualifiedName?_markQualified (g : Names) (c : ClassType) (n : FieldAccess) :
    (Expression.fieldAccess (g.markQualified c n)).qualifiedName? =
      (Expression.fieldAccess n).qualifiedName? := by
  match n with
  | ⟨id, leading, target, dot, name, type⟩ =>
    simp [markQualified, Expression.qualifiedName?, qualifiedName?_markName g _ target]

end

end Names

namespace Import

/-- Two imports that say the same, whatever their names are known to refer to. -/
structure Alike (i j : Import) : Prop where
  isStatic : i.isStatic = j.isStatic
  outer : i.name.target.qualifiedName? = j.name.target.qualifiedName?
  last : i.name.name.name = j.name.name.name

variable {i j : Import}

namespace Alike

theorem isWildcard (h : i.Alike j) : i.isWildcard = j.isWildcard := congrArg (· == "*") h.last

theorem fullName (h : i.Alike j) : i.fullName = j.fullName := by
  rw [fullName_eq, fullName_eq, h.outer, h.last]

theorem typeName? (h : i.Alike j) : i.typeName? = j.typeName? := by
  simp [Import.typeName?, h.isStatic, h.isWildcard, h.fullName, h.outer]

theorem packageName (h : i.Alike j) : i.packageName = j.packageName := by
  simp [Import.packageName, h.isStatic, h.isWildcard, h.typeName?, h.outer]

theorem named (h : i.Alike j) (named : j.Named) :
    i.Named := ⟨h.outer ▸ named.outer, h.last ▸ named.last⟩

end Alike

theorem alike_markImport (g : Names) (i : Import) : (g.markImport i).Alike i := by
  unfold Names.markImport
  split
  · exact ⟨rfl, rfl, rfl⟩
  · next c _ =>
    obtain ⟨id, leading, staticLeading, ⟨_, _, target, _, name, _⟩⟩ := i
    split
    · exact ⟨rfl, g.qualifiedName?_markName _ target, rfl⟩
    · exact ⟨rfl, g.qualifiedName?_markName _ target, rfl⟩

end Import

/-! ## Packages -/

theorem packageOf_eq (name : String) : packageOf name =
    ".".intercalate ((Text.split '.' name).takeWhile fun s => s.toList.head?.any Char.isLower) := by
  unfold packageOf
  congr 2
  funext s
  cases s.toList <;> rfl

/-- A name with a segment that does not begin with a lower-case letter goes on behind its package.
-/
theorem exists_behind_package {name : String}
    (typed : ∃ s ∈ Text.split '.' name, s.toList.head?.any Char.isLower = false)
      (packaged : packageOf name ≠ "") :
    ∃ rest, name = packageOf name ++ "." ++ rest := by
  rw [packageOf_eq] at packaged ⊢
  generalize segments : Text.split '.' name = parts at typed packaged ⊢
  have whole := List.takeWhile_append_dropWhile
    (p := fun s : String => s.toList.head?.any Char.isLower) (l := parts)
  have front : parts.takeWhile (fun s => s.toList.head?.any Char.isLower) ≠ [] :=
    fun none => packaged (by rw [none]; rfl)
  have back : parts.dropWhile (fun s => s.toList.head?.any Char.isLower) ≠ [] := by
    intro none
    obtain ⟨s, mem, upper⟩ := typed
    exact absurd (List.dropWhile_eq_nil_iff.1 none s mem) (by simp [upper])
  have joined := Text.intercalate_append "." front back
  rw [whole, ← segments, Text.intercalate_split rfl] at joined
  exact ⟨_, segments ▸ joined⟩

/-- The imports of a source are named. -/
theorem named_parseSource {classpath : Classpath}
    {bindings : List (String × JavaType)} {path source : String}
    {nextId n : NodeId} {u : CompilationUnit}
      (h : parseSource classpath bindings path source nextId = .ok (u, n)) :
    ∀ p ∈ u.imports, p.element.Named := by
  obtain ⟨raw, parsed, rfl⟩ := exists_parseUnit h
  obtain ⟨tokens, s', lexed, run⟩ := exists_unit parsed
  have spelled := Parser.spelled_tokenize lexed false nextId
  unfold Parser.unit at run
  obtain ⟨package, s₁, first, run⟩ := Parser.bind_ok run
  obtain ⟨imports, s₂, listed, run⟩ := Parser.bind_ok run
  obtain ⟨classes, s₃, -, run⟩ := Parser.bind_ok run
  obtain ⟨id, s₄, -, built⟩ := Parser.bind_ok run
  cases built
  have rest : s₁.Spelled := fun t mem =>
    spelled t ((Parser.Drops.packageDeclaration _ first).subset mem)
  have named := (Parser.spells_importList _ s₁ rest imports s₂ listed).1
  intro p mem
  obtain ⟨q, there, rfl⟩ := List.mem_map.1 mem
  exact (Import.alike_markImport _ _).named (named q there)

end Retouch
