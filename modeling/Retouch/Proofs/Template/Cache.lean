import Retouch.Proofs.Template.Filling
import Retouch.Proofs.Template.Keys

/-!
# Fragments from the session

A session keeps what a template was read as, and gives it back for arguments whose types have the
same texts. Behind any uses of templates this is what a new session would read
(`compile_transparent`), if two things hold.

* The types of the arguments can be told apart by their texts (`Distinct`). Classes of one name that
  have other supertypes cannot, and then one of them gets what was read for the other
  (`compile_mistaken`).
* The parts of the templates do not hold the marks by which keys are put together
  (`Template.Plain`).
-/

namespace Retouch

namespace Template

variable {args args' : List Expression}

/-! ## Reading -/

theorem ofCode_of_parametrize {code parametrized : String} {placeholders : List Placeholder}
    (imports staticImports resources : List String)
    (read : Placeholder.parametrize 0 0 code.toList = .ok (parametrized.toList, placeholders)) :
    ofCode code imports staticImports resources =
      .ok ⟨code, parametrized, placeholders, imports, staticImports, resources⟩ := by
  rw [ofCode, read]
  simp

theorem bindArgument_congr (t : Template) (cp : Classpath) (index : Nat) (p : Placeholder)
    {arg arg' : Expression} (same : arg.type = arg'.type) :
    t.bindArgument cp index p arg = t.bindArgument cp index p arg' := by
  unfold bindArgument
  rw [same]

/-- Only the types of the arguments matter. -/
theorem bind_congr (t : Template) (cp : Classpath)
    (same : args.map (·.type) = args'.map (·.type)) : t.bind cp args = t.bind cp args' := by
  have through (ps : List Placeholder) (index : Nat) :
      (((ps.zip args).zipIdx index).mapM fun x => t.bindArgument cp x.2 x.1.1 x.1.2) =
        ((ps.zip args').zipIdx index).mapM fun x => t.bindArgument cp x.2 x.1.1 x.1.2 := by
    induction ps generalizing args args' index with
    | nil => rfl
    | cons p ps ih =>
      cases args with
      | nil =>
        obtain rfl : args' = [] := by simpa using same
        rfl
      | cons arg args =>
        cases args' with
        | nil => simp at same
        | cons arg' args' =>
          obtain ⟨first, rest⟩ := List.cons.inj same
          simp only [List.zip_cons_cons, List.zipIdx_cons, List.mapM_cons, ih rest,
            bindArgument_congr t cp index p first]
  exact through t.placeholders 0

/-- Reading depends on a session that is not cancelled only by its next id, and changes nothing
else. -/
theorem read_eq (t : Template) (shape : Shape) (cp : Classpath)
    (bindings : List (String × JavaType))
    {s : Session} (running : s.cancelled = false) :
    (t.read shape cp bindings s).1 = (t.read shape cp bindings { nextId := s.nextId }).1 ∧
      ∃ n, (t.read shape cp bindings s).2 = { s with nextId := n } := by
  unfold read Session.parse
  cases parseSource cp bindings "__Template.java" (t.source shape) s.nextId with
  | error e => exact ⟨rfl, s.nextId, rfl⟩
  | ok r =>
    refine ⟨?_, r.2, rfl⟩
    simp only [Session.findUnattributed]
    rw [Session.findCalls_eq (by exact running), Session.findCalls_eq rfl]

section Run

variable {α β : Type} (s : Session)

theorem run_get (k : Session → Templating α) : (get >>= k).run s = (k s).run s := rfl

theorem run_set (s' : Session) (k : PUnit → Templating α) : (set s' >>= k).run s = (k ⟨⟩).run s' :=
    rfl

theorem run_lift (x : Except TemplateError α) (k : α → Templating β) :
    (liftM x >>= k).run s =
      match x with
      | .error e => (.error e, s)
      | .ok a => (k a).run s := by
  cases x <;> rfl

end Run

/-- The fragment that the session keeps, or what it reads now and keeps. -/
def readKept (t : Template) (shape : Shape) (cp : Classpath) (args : List Expression)
    (bindings : List (String × JavaType)) (s : Session) : Except TemplateError Fragment × Session :=
  match s.fragments.get? (t.key shape cp args) with
  | some made => (made, s)
  | none =>
    let (made, s') := t.read shape cp bindings s
    (made, { s' with fragments := s'.fragments.set (t.key shape cp args) made })

theorem compile_run (t : Template) (shape : Shape) (args : List Expression) (s : Session) :
    (t.compile shape args).run s =
      if args.length != t.placeholders.length then
        (.error (.argumentCount t.placeholders.length args.length), s)
      else match s.classpath t.resources with
      | (.error e, s') => (.error (.classpath e), s')
      | (.ok cp, s') =>
        match t.bind cp args with
        | .error e => (.error e, s')
        | .ok bindings => t.readKept shape cp args bindings s' := by
  unfold compile
  split
  · rfl
  rw [run_get]
  rcases s.classpath t.resources with ⟨e | cp, s'⟩
  · rfl
  rw [run_set, run_lift]
  dsimp only [Except.mapError]
  rw [run_lift]
  cases t.bind cp args with
  | error e => rfl
  | ok bindings =>
    dsimp only [readKept]
    cases s'.fragments.get? (t.key shape cp args) with
    | some made => cases made <;> rfl
    | none =>
      rcases t.read shape cp bindings s' with ⟨made, s''⟩
      cases made <;> rfl

/-- What a session that keeps nothing reads the template as, from the next id on. -/
def readAfresh (t : Template) (shape : Shape) (args : List Expression) (n : NodeId) :
    Except TemplateError Fragment :=
  if args.length != t.placeholders.length then
    .error (.argumentCount t.placeholders.length args.length)
  else match Classpath.ofResources t.resources with
  | .error e => .error (.classpath e)
  | .ok cp =>
    match t.bind cp args with
    | .error e => .error e
    | .ok bindings => (t.read shape cp bindings { nextId := n }).1

end Template

/-! ## Coherent sessions -/

namespace Session

/-- The session was not cancelled and has kept nothing yet. -/
structure Fresh (s : Session) : Prop where
  running : s.cancelled = false
  classpaths : s.classpaths = []
  fragments : s.fragments = []

/-- The session keeps only what a new session would make. -/
structure Coherent (Known : JavaType → Prop) (s : Session) : Prop where
  running : s.cancelled = false
  classpaths : ∀ key made, (key, made) ∈ s.classpaths → ∃ names : List String,
    (∀ name ∈ names, name ≠ "" ∧ '+' ∉ name.toList) ∧ key = "+".intercalate names ∧
      made = Classpath.ofResources names
  fragments : ∀ key made, (key, made) ∈ s.fragments → ∃ t shape cp args bindings n,
    Template.Use Known t cp args ∧ t.bind cp args = .ok bindings ∧ key = t.key shape cp args ∧
      made = (t.read shape cp bindings { nextId := n }).1

variable {Known : JavaType → Prop} {s : Session}

theorem Fresh.coherent (h : s.Fresh) : s.Coherent Known where
  running := h.running
  classpaths := by simp [h.classpaths]
  fragments := by simp [h.fragments]

theorem Coherent.withId (h : s.Coherent Known) (n : NodeId) :
    Coherent Known { s with nextId := n } :=
  ⟨h.running, h.classpaths, h.fragments⟩

theorem mem_of_get? {α : Type} {t : Table α} {name : String} {a : α} (h : t.get? name = some a) :
    (name, a) ∈ t := by
  obtain ⟨front, back, split, -⟩ := List.lookup_eq_some_iff.1 h
  simp [split]

theorem mem_set {α : Type} {t : Table α} {name name' : String} {a a' : α}
    (h : (name', a') ∈ t.set name a) : (name', a') ∈ t ∨ name' = name ∧ a' = a := by
  obtain old | new := List.mem_append.1 h
  · exact .inl (List.mem_filter.1 old).1
  · exact .inr (Prod.mk.inj (List.mem_singleton.1 new))

/-- A coherent session makes the class path that was asked for. -/
theorem Coherent.classpath (h : s.Coherent Known) {names : List String}
    (plain : ∀ name ∈ names, name ≠ "" ∧ '+' ∉ name.toList) :
    ∃ s', s.classpath names = (Classpath.ofResources names, s') ∧ s'.Coherent Known ∧
      s'.fragments = s.fragments ∧ s'.nextId = s.nextId := by
  unfold Session.classpath
  dsimp only
  split
  · next made found =>
    obtain ⟨names', plain', same, rfl⟩ := h.classpaths _ _ (mem_of_get? found)
    obtain rfl := Text.intercalate_inj rfl plain plain' same
    exact ⟨s, rfl, h, rfl, rfl⟩
  · refine ⟨_, rfl, ⟨h.running, fun key made mem => ?_, h.fragments⟩, rfl, rfl⟩
    obtain old | ⟨rfl, rfl⟩ := mem_set mem
    · exact h.classpaths key made old
    · exact ⟨names, plain, rfl, rfl⟩

end Session

namespace Template

variable {Known : JavaType → Prop} {t : Template} {args : List Expression} {s : Session}

theorem read_resources (t : Template) (resources : List String) :
    { t with resources }.read = t.read := by
  unfold read source
  with_reducible rfl

theorem bind_resources (t : Template) (resources : List String) :
    { t with resources }.bind = t.bind := by
  unfold bind bindArgument placeholderType
  with_reducible rfl

/-- A coherent session has kept what it would read, and stays coherent with what it reads. -/
theorem readKept_coherent (distinct : Distinct Known) (coherent : s.Coherent Known) {cp : Classpath}
    (use : Use Known t cp args) {bindings : List (String × JavaType)}
    (bound : t.bind cp args = .ok bindings) (shape : Shape) :
    (∃ n, (t.readKept shape cp args bindings s).1 = (t.read shape cp bindings { nextId := n }).1) ∧
      (t.readKept shape cp args bindings s).2.Coherent Known := by
  unfold readKept
  split
  · next made kept =>
    obtain ⟨t', shape', cp', args', bindings', n, use', bound', key, made'⟩ :=
      coherent.fragments _ _ (Session.mem_of_get? kept)
    obtain ⟨rfl, same, rfl, types⟩ := eq_of_key distinct use use' key
    have bindings_eq : bindings = bindings' := by
      rw [same, bind_resources, ← bind_congr t cp types, bound] at bound'
      exact Except.ok.inj bound'
    refine ⟨⟨n, ?_⟩, coherent⟩
    rw [made', same, read_resources, bindings_eq]
  · obtain ⟨made, n, left⟩ := read_eq t shape cp bindings coherent.running
    refine ⟨⟨s.nextId, made⟩, ?_⟩
    dsimp only
    rw [left]
    refine ⟨coherent.running, coherent.classpaths, fun key made' mem => ?_⟩
    obtain old | ⟨rfl, rfl⟩ := Session.mem_set mem
    · exact coherent.fragments key made' old
    · exact ⟨t, shape, cp, args, bindings, s.nextId, use, bound, rfl, made⟩

/-- In a coherent session a template is read as in a new one, and the session stays coherent. -/
theorem compile_coherent (distinct : Distinct Known) (coherent : s.Coherent Known) (plain : t.Plain)
    (shape : Shape) (known : ∀ arg ∈ args, Known arg.type) :
    (∃ n, ((t.compile shape args).run s).1 = t.readAfresh shape args n) ∧
      ((t.compile shape args).run s).2.Coherent Known := by
  obtain ⟨s', asked, coherent', -, -⟩ := coherent.classpath plain.resources
  rw [compile_run, asked]
  unfold readAfresh
  split
  · exact ⟨⟨0, rfl⟩, coherent⟩
  next count =>
  cases found : Classpath.ofResources t.resources with
  | error e => exact ⟨⟨0, rfl⟩, coherent'⟩
  | ok cp =>
    dsimp only
    cases bound : t.bind cp args with
    | error e => exact ⟨⟨0, rfl⟩, coherent'⟩
    | ok bindings =>
      exact readKept_coherent distinct coherent'
        ⟨plain, known, by simpa using count, found⟩ bound shape

theorem compile_fresh (fresh : s.Fresh) (t : Template) (shape : Shape) (args : List Expression) :
    ((t.compile shape args).run s).1 = t.readAfresh shape args s.nextId := by
  obtain ⟨s', asked, running, fragments, next⟩ : ∃ s', s.classpath t.resources =
      (Classpath.ofResources t.resources, s') ∧ s'.cancelled = false ∧ s'.fragments = [] ∧
        s'.nextId = s.nextId := by
    unfold Session.classpath
    rw [fresh.classpaths]
    exact ⟨_, rfl, fresh.running, fresh.fragments, rfl⟩
  rw [compile_run, asked]
  unfold readAfresh
  split
  · rfl
  cases Classpath.ofResources t.resources with
  | error e => rfl
  | ok cp =>
    dsimp only
    cases t.bind cp args with
    | error e => rfl
    | ok bindings =>
      dsimp only [readKept]
      rw [fragments, ← next, ← (read_eq t shape cp bindings running).1]
      rfl

end Template

/-! ## Sessions that keep on -/

theorem Table.get?_set {α : Type} (t : Table α) (name other : String) (a : α) :
    (t.set name a).get? other = if other = name then some a else t.get? other := by
  have look (key : String) (b : α) (t : Table α) :
      List.lookup other ((key, b) :: t) = if other = key then some b else List.lookup other t := by
    by_cases same : other = key
    · simp [same]
    · rw [List.lookup_cons, beq_false_of_ne same, if_neg same]
  unfold set get?
  induction t with
  | nil => simp [look]
  | cons e t ih =>
    obtain ⟨key, b⟩ := e
    by_cases dropped : key = name
    · subst dropped
      by_cases same : other = key <;> simp_all
    · by_cases same : other = key <;> simp_all

/-- What the session `s` has made, `t` has made too, and it is cancelled only if `s` was. -/
structure Session.KeptBy (s t : Session) : Prop where
  running : s.cancelled = false → t.cancelled = false
  classpaths : ∀ key made, s.classpaths.get? key = some made → t.classpaths.get? key = some made
  fragments : ∀ key made, s.fragments.get? key = some made → t.fragments.get? key = some made

namespace Session.KeptBy

theorem refl (s : Session) : s.KeptBy s := ⟨id, fun _ _ h => h, fun _ _ h => h⟩

theorem trans {s t u : Session} (h : s.KeptBy t) (h' : t.KeptBy u) : s.KeptBy u :=
  ⟨fun running => h'.running (h.running running),
    fun key made found => h'.classpaths key made (h.classpaths key made found),
    fun key made found => h'.fragments key made (h.fragments key made found)⟩

/-- A class path is made once. -/
theorem classpath (s : Session) (names : List String) :
    s.KeptBy (s.classpath names).2 ∧ ∀ s', (s.classpath names).2.KeptBy s' →
      s'.classpath names = ((s.classpath names).1, s') := by
  unfold Session.classpath
  dsimp only
  split
  · next made found =>
    refine ⟨.refl s, fun s' kept => ?_⟩
    rw [kept.classpaths _ _ found]
  · next missing =>
    refine ⟨⟨id, fun key made found => ?_, fun _ _ h => h⟩, fun s' kept => ?_⟩
    · rw [Table.get?_set, if_neg, found]
      rintro rfl
      simp [missing] at found
    · rw [kept.classpaths _ _ (by rw [Table.get?_set, if_pos rfl])]

end Session.KeptBy

namespace Template

/-- What was read is there when it is asked for again. -/
theorem readKept_again (t : Template) (shape : Shape) (cp : Classpath) (args : List Expression)
    (bindings : List (String × JavaType)) {s : Session} (running : s.cancelled = false) :
    s.KeptBy (t.readKept shape cp args bindings s).2 ∧
      ∀ s', (t.readKept shape cp args bindings s).2.KeptBy s' →
        t.readKept shape cp args bindings s' = ((t.readKept shape cp args bindings s).1, s') := by
  unfold readKept
  split
  · next made found =>
    refine ⟨.refl s, fun s' kept => ?_⟩
    rw [kept.fragments _ _ found]
  · next missing =>
    obtain ⟨-, n, left⟩ := read_eq t shape cp bindings running
    dsimp only
    rw [left]
    refine ⟨⟨id, fun _ _ h => h, fun key made found => ?_⟩, fun s' kept => ?_⟩
    · rw [Table.get?_set, if_neg, found]
      rintro rfl
      simp [missing] at found
    · rw [kept.fragments _ _ (by rw [Table.get?_set, if_pos rfl])]

/-- A template is read once for the same arguments: later on the session has the result. -/
theorem compile_again (t : Template) (shape : Shape) (args : List Expression) {s : Session}
    (running : s.cancelled = false) :
    s.KeptBy ((t.compile shape args).run s).2 ∧ ∀ s', ((t.compile shape args).run s).2.KeptBy s' →
      (t.compile shape args).run s' = (((t.compile shape args).run s).1, s') := by
  obtain ⟨made, again⟩ := Session.KeptBy.classpath s t.resources
  have running' := made.running running
  simp only [compile_run]
  split
  · exact ⟨.refl s, fun _ _ => rfl⟩
  rcases asked : s.classpath t.resources with ⟨e | cp, s₁⟩
  · rw [asked] at made again
    exact ⟨made, fun s' kept => by rw [again s' kept]⟩
  · rw [asked] at made again running'
    dsimp only
    cases bound : t.bind cp args with
    | error e =>
      refine ⟨made, fun s' kept => ?_⟩
      rw [again s' kept]
      simp only [bound]
    | ok bindings =>
      obtain ⟨made', again'⟩ := t.readKept_again shape cp args bindings running'
      refine ⟨made.trans made', fun s' kept => ?_⟩
      rw [again s' (made'.trans kept)]
      simp only [bound]
      exact again' s' kept

end Template

/-! ## Uses of templates -/

/-- A property of sessions that does not depend on the next id. -/
def IdFree (Inv : Session → Prop) : Prop := ∀ s n, Inv s → Inv { s with nextId := n }

/-- The computation keeps a property of the session. -/
abbrev Keeps {α : Type} (Inv : Session → Prop) (p : Templating α) :
    Prop := Fills Inv p fun _ => True

namespace Keeps

variable {α β : Type} {Inv : Session → Prop}

theorem pure (a : α) : Keeps Inv (pure a) := Fills.pure trivial

theorem bind {p : Templating α} {q : α → Templating β} (hp : Keeps Inv p)
    (hq : ∀ a, Keeps Inv (q a)) : Keeps Inv (p >>= q) :=
  Fills.bind hp fun a _ => hq a

/-- A result that is worked on without the session. -/
theorem map {p : Templating α} (hp : Keeps Inv p) (f : α → β) : Keeps Inv (do return f (← p)) :=
  hp.bind fun a => .pure (f a)

theorem mapM {f : α → Templating β} (h : ∀ a, Keeps Inv (f a)) (l : List α) :
    Keeps Inv (l.mapM f) := by
  induction l with
  | nil => exact .pure []
  | cons a l ih =>
    rw [List.mapM_cons]
    exact (h a).bind fun _ => ih.map _

end Keeps

section Substitution

variable {Inv : Session → Prop}

/-- Filling in arguments takes new ids from the session and nothing else. -/
def substitutionWatch (free : IdFree Inv) (args : List Expression) (scope : EditScope) :
    Watch (substitution args) scope where
  seen _ := True
  ok _ := True
  inv _ s := Inv s.session
  onIdentifier p n rs s holds := by
    dsimp only [substitution]
    cases (Placeholder.parameterIndex? n.name).bind (args[·]?) with
    | none => exact holds
    | some arg =>
      dsimp only
      by_cases loose : needsParentheses p arg = true
      · rw [if_pos loose]
        exact ⟨free _ _ holds, trivial⟩
      · rw [if_neg loose]
        exact ⟨holds, trivial⟩
  onLiteral _ _ _ holds := holds
  onCall _ _ _ holds := holds
  onClass _ _ _ holds := holds
  keepsKind keeps := by simp [substitution] at keeps

variable (free : IdFree Inv) (args : List Expression)

theorem keeps_runEdit {α : Type} {edit : Edit (Edited α)} {S : List Replacement → Edited α → Prop}
    (h : (substitutionWatch free args ⟨"", none⟩).Edits [] edit S) :
    Keeps Inv (Template.runEdit edit) := by
  intro s holds
  obtain ⟨new, holds', -⟩ := h [] { session := s } holds
  exact ⟨holds', fun _ _ => trivial⟩

include free

theorem keeps_substitute (e : Expression) :
    Keeps Inv (Template.runEdit (e.editBy (substitution args))) :=
  keeps_runEdit free args (.expression (Watch.edits_expression _ e [] fun _ _ _ _ => trivial))

theorem keeps_substituteStatement (s : Statement) :
    Keeps Inv (Template.runEdit (s.editBy (substitution args))) :=
  keeps_runEdit free args (.statement (Watch.edits_statement _ s _ fun _ _ _ _ => trivial))

theorem keeps_substituteAnnotated (a : Annotation) :
    Keeps Inv (Template.runEdit (a.editBy (substitution args))) :=
  keeps_runEdit free args (.enter (Watch.edits_annotated _ a _ fun _ _ _ _ => trivial) (.same _))

end Substitution

namespace Template

variable {Inv : Session → Prop} {t : Template} {args : List Expression}

theorem keeps_indexIn (b : Block) (id : NodeId) : Keeps Inv (indexIn b id) := by
  unfold indexIn
  split
  · exact .pure _
  · exact .throw _

variable (free : IdFree Inv) (h : ∀ shape, Keeps Inv (t.compile shape args))

include free h

theorem keeps_expression : Keeps Inv (t.expression args) := by
  refine (h .expression).bind fun f => ?_
  split
  · exact keeps_substitute free args _
  · exact .throw _

theorem keeps_statements : Keeps Inv (t.statements args) := by
  refine (h .statements).bind fun f => ?_
  split
  · exact .mapM (keeps_substituteStatement free args) _
  · exact .throw _

theorem keeps_annotated : Keeps Inv (t.annotated args) := by
  refine (h .annotated).bind fun f => ?_
  split
  · exact keeps_substituteAnnotated free args _
  · exact .throw _

theorem keeps_insert (b : Block) (spot : Insertion) : Keeps Inv (t.insert b spot args) := by
  have statements := keeps_statements free h
  unfold insert
  cases spot with
  | before id => exact (keeps_indexIn b id).bind fun _ => statements.map _
  | after id => exact (keeps_indexIn b id).bind fun _ => statements.map _
  | first => exact statements.map _
  | last => exact statements.map _

theorem keeps_annotateClass (c : ClassDeclaration) : Keeps Inv (t.annotateClass c args) := by
  refine (keeps_annotated free h).bind fun a => ?_
  dsimp only
  split <;> exact .pure _

theorem keeps_annotateMethod (m : MethodDeclaration) : Keeps Inv (t.annotateMethod m args) := by
  refine (keeps_annotated free h).bind fun a => ?_
  dsimp only
  split <;> exact .pure _

theorem keeps_insertBeside (path : List Node) (s : Statement) (spot : NodeId → Insertion) :
    Keeps Inv (t.insertBeside path s spot args) := by
  unfold insertBeside
  split
  · exact (keeps_insert free h _ _).map _
  · exact .throw _

theorem keeps_replaceStatement (s : Statement) : Keeps Inv (t.replaceStatement s args) := by
  refine (keeps_statements free h).bind fun ss => ?_
  split
  · exact .pure _
  · exact .throw _

/-- A use of a template keeps what reading keeps. -/
theorem keeps_applyAt (path : List Node) (target : Node) (place : Place) :
    Keeps Inv (t.applyAt path target place args) := by
  have inserted := keeps_insert free h
  have beside := keeps_insertBeside free h
  have classes := keeps_annotateClass free h
  have methods := keeps_annotateMethod free h
  unfold applyAt
  split
  · exact ((keeps_expression free h).map _).map _
  · exact (keeps_replaceStatement free h _).map _
  · exact ((keeps_annotated free h).map _).map _
  · exact beside _ _ _
  · exact beside _ _ _
  · exact (inserted _ _).map _
  · exact (inserted _ _).map _
  · exact (inserted _ _).map _
  · exact (inserted _ _).map _
  · exact (classes _).map _
  · exact (classes _).map _
  · exact (methods _).map _
  · exact (methods _).map _
  · exact .throw _

end Template

/-- One use of a template. -/
structure Application where
  template : Template
  args : List Expression
  path : List Node
  target : Node
  place : Place

namespace Application

def apply (a : Application) : Templating Node :=
  a.template.applyAt a.path a.target a.place a.args

/-- The template is plain, and the types of the arguments are among those that can be told apart. -/
structure Fair (Known : JavaType → Prop) (a : Application) : Prop where
  plain : a.template.Plain
  known : ∀ arg ∈ a.args, Known arg.type

end Application

/-- The session behind uses of templates, whether they succeed or not. -/
def Session.after (s : Session) (uses : List Application) : Session :=
  uses.foldl (fun s a => (a.apply.run s).2) s

/-- What reading keeps, uses of templates keep. -/
theorem Session.after_keeps {Inv : Session → Prop} (free : IdFree Inv) {uses : List Application}
    (h : ∀ a ∈ uses, ∀ shape, Keeps Inv (a.template.compile shape a.args)) {s : Session}
    (holds : Inv s) : Inv (s.after uses) := by
  induction uses generalizing s with
  | nil => exact holds
  | cons a uses ih =>
    obtain ⟨first, rest⟩ := List.forall_mem_cons.1 h
    exact ih rest (Template.keeps_applyAt free first a.path a.target a.place s holds).1

theorem Session.Coherent.after {Known : JavaType → Prop} (distinct : Distinct Known)
    {uses : List Application} (fair : ∀ a ∈ uses, a.Fair Known) {s : Session}
    (coherent : s.Coherent Known) : (s.after uses).Coherent Known := by
  refine Session.after_keeps (fun _ n h => h.withId n) (fun a mem shape s h => ?_) coherent
  obtain ⟨plain, known⟩ := fair a mem
  exact ⟨(Template.compile_coherent distinct h plain shape known).2, fun _ _ => trivial⟩

/-- Behind any uses of templates a template is read as in a new session: the fragment or the error
is what a session that keeps nothing gives from some id on. -/
theorem compile_transparent {Known : JavaType → Prop} (distinct : Distinct Known) {s₀ : Session}
    (fresh : s₀.Fresh) {uses : List Application} (fair : ∀ a ∈ uses, a.Fair Known) {t : Template}
    (plain : t.Plain) {args : List Expression} (known : ∀ arg ∈ args, Known arg.type)
      (shape : Shape) :
    ∃ n, ∀ s : Session, s.Fresh → s.nextId = n →
      ((t.compile shape args).run (s₀.after uses)).1 = ((t.compile shape args).run s).1 := by
  obtain ⟨⟨n, read⟩, -⟩ := Template.compile_coherent distinct (fresh.coherent.after distinct fair)
    plain shape known
  refine ⟨n, fun s fresh' next => ?_⟩
  rw [read, Template.compile_fresh fresh', next]

/-- An argument of the type. -/
def argumentOf (type : JavaType) : Expression := .identifier ⟨0, .empty, "a", type, none⟩

/-- A sum is read for an argument that is an `int` behind its use for one that is a text. -/
theorem compile_transparent_sum :
    let int : JavaType := .primitive .int
    let text : JavaType := .declared (.leaf "java.lang.String" .clazz)
    ∃ t, Template.ofCode "#\x7bany()\x7d + 1" [] [] [] = .ok t ∧ t.Plain ∧
      ∃ n, ∀ s : Session, s.Fresh → s.nextId = n →
        ((t.compile .expression [argumentOf int]).run (Session.after {}
          [⟨t, [argumentOf text], [], .expression (argumentOf int), .replace⟩])).1 =
          ((t.compile .expression [argumentOf int]).run s).1 := by
  intro int text
  let t : Template := ⟨"#\x7bany()\x7d + 1", "__p0__ + 1", [.any], [], [], []⟩
  have made : Template.ofCode "#\x7bany()\x7d + 1" [] [] [] = .ok t :=
    Template.ofCode_of_parametrize [] [] [] (by decide +kernel)
  have plain : t.Plain := ⟨made, by decide, by simp [t], by simp [t], by simp [t]⟩
  have distinct : Distinct (· ∈ [int, text]) := by
    refine ⟨fun type mem => ?_, fun a b mem mem' same => ?_⟩
    · simp only [List.mem_cons, List.not_mem_nil, or_false] at mem
      obtain rfl | rfl := mem <;> decide
    · simp only [List.mem_cons, List.not_mem_nil, or_false] at mem mem'
      obtain rfl | rfl := mem <;> obtain rfl | rfl := mem' <;>
        first | rfl | exact absurd same (by decide)
  refine ⟨t, made, plain, ?_⟩
  refine compile_transparent distinct ⟨rfl, rfl, rfl⟩ (fun a mem => ?_) plain ?_ .expression
  · obtain rfl := List.mem_singleton.1 mem
    exact ⟨plain, by simp [argumentOf, Expression.type, int, text]⟩
  · simp [argumentOf, Expression.type, int, text]

/-- Two classes have the same name, and only one of them can be handed to `f`. What was read for
that one is given for the other, for which there is nothing to read. -/
theorem compile_mistaken :
    let classpath : Classpath := ⟨"", [{ fqn := "a.F", methods :=
      [{ name := "f", params := ["a.C"], isStatic := true }] }],
      [("a.F", .leaf "a.F" .clazz), ("a.C", .leaf "a.C" .interface)]⟩
    let s : Session := { classpaths := [("", .ok classpath)] }
    let below := argumentOf (.declared ⟨"Foo", .clazz, [.leaf "a.C" .interface], false⟩)
    let other := argumentOf (.declared (.leaf "Foo" .clazz))
    ∃ t, Template.ofCode "F.f(#\x7bany()\x7d)" ["a.F"] [] [] = .ok t ∧
      ((t.compile .expression [other]).run s).1.isOk = false ∧
      ((t.compile .expression [other]).run ((t.compile .expression [below]).run s).2).1.isOk =
        true := by
  intro classpath s below other
  let t : Template := ⟨"F.f(#\x7bany()\x7d)", "F.f(__p0__)", [.any], ["a.F"], [], []⟩
  exact ⟨t, Template.ofCode_of_parametrize ["a.F"] [] [] (by decide +kernel), by decide +kernel,
    by decide +kernel⟩

end Retouch
