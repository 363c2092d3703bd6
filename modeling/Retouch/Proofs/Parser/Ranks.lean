import Retouch.Proofs.Parser.Progress

/-!
# Ranks of nonterminals

A nonterminal that calls another one has passed a token by then, or the other one has a lower rank.
The nonterminals are data (`Rule`), so the calls that one of them may make are one hypothesis
(`Calls`), and each nonterminal leads on if its calls do. The induction over the bound follows from
that (`Rule.leads`).
-/

namespace Retouch.Parser

/-- The nonterminals that are bounded in depth. -/
inductive Rule : Type → Type
  | typeBase : Rule TypeTree
  | typeTree : Rule TypeTree
  | annotationList : Rule (List Annotation)
  | heading : Rule Heading
  | annotationItem : Rule Annotation
  | annotationArgument : Rule Expression
  | elementValue : Rule Expression
  | classDeclaration (h : Heading) : Rule ClassDeclaration
  | classBody : Rule Block
  | members : Rule (List (Padded Statement))
  | member : Rule (Padded Statement)
  | methodDeclaration (h : Heading) (returnType : Option TypeTree) : Rule (Padded Statement)
  | formalParameter : Rule VariableDeclarations
  | namedVariable (withInitializer : Bool) : Rule NamedVariable
  | variableInitializer : Rule Expression
  | arrayInitializer : Rule Expression
  | declarators : Rule (List (Padded NamedVariable))
  | localVariables : Rule VariableDeclarations
  | block : Rule Block
  | blockStatements : Rule (List (Padded Statement))
  | blockStatement : Rule (Padded Statement)
  | parenthesized : Rule Parenthesized
  | ifStatement : Rule (Padded Statement)
  | forStatement : Rule (Padded Statement)
  | switchStatement : Rule (Padded Statement)
  | switchCases : Rule (List Case)
  | switchCase : Rule Case
  | caseStatements : Rule (List (Padded Statement))
  | resourceList : Rule (List (Padded Statement) × Bool)
  | tryResources : Rule TryResources
  | tryStatement : Rule (Padded Statement)
  | catchList : Rule (List Catch)
  | expression : Rule Expression
  | lambda : Rule Expression
  | lambdaParameter : Rule VariableDeclarations
  | ternary : Rule Expression
  | binary (least : Nat) : Rule Expression
  | binaryRest (least : Nat) (left : Expression) : Rule Expression
  | unary : Rule Expression
  | primary : Rule Expression
  | selection (target : Expression) : Rule Expression
  | newExpression : Rule Expression
  | dimensionList : Rule (List ArrayDimension)
  | importList : Rule (List (Padded Import))
  | classList : Rule (List ClassDeclaration)

namespace Rule

/-- The parser of a nonterminal. -/
def parse {α : Type} : Rule α → Nat → Parse α
  | typeBase => Parser.typeBase
  | typeTree => Parser.typeTree
  | annotationList => Parser.annotationList
  | heading => Parser.heading
  | annotationItem => Parser.annotation
  | annotationArgument => Parser.annotationArgument
  | elementValue => Parser.elementValue
  | classDeclaration h => Parser.classDeclaration h
  | classBody => Parser.classBody
  | members => Parser.members
  | member => Parser.member
  | methodDeclaration h returnType => Parser.methodDeclaration h returnType
  | formalParameter => Parser.formalParameter
  | namedVariable withInitializer => Parser.namedVariable withInitializer
  | variableInitializer => Parser.variableInitializer
  | arrayInitializer => Parser.arrayInitializer
  | declarators => Parser.declarators
  | localVariables => Parser.localVariables
  | block => Parser.block
  | blockStatements => Parser.blockStatements
  | blockStatement => Parser.blockStatement
  | parenthesized => Parser.parenthesized
  | ifStatement => Parser.ifStatement
  | forStatement => Parser.forStatement
  | switchStatement => Parser.switchStatement
  | switchCases => Parser.switchCases
  | switchCase => Parser.switchCase
  | caseStatements => Parser.caseStatements
  | resourceList => Parser.resourceList
  | tryResources => Parser.tryResources
  | tryStatement => Parser.tryStatement
  | catchList => Parser.catchList
  | expression => Parser.expression
  | lambda => Parser.lambda
  | lambdaParameter => Parser.lambdaParameter
  | ternary => Parser.ternary
  | binary least => Parser.binary least
  | binaryRest least left => Parser.binaryRest least left
  | unary => Parser.unary
  | primary => Parser.primary
  | selection target => Parser.selection target
  | newExpression => Parser.newExpression
  | dimensionList => Parser.dimensionList
  | importList => Parser.importList
  | classList => Parser.classList

/-- Where no token is passed in between, a nonterminal only calls those of a lower rank. -/
def rank {α : Type} : Rule α → Nat
  | typeBase | annotationList | declarators | primary | switchCases => 1
  | typeTree | heading | unary => 2
  | localVariables | formalParameter | member | binary _ | classList => 3
  | lambdaParameter | members | ternary => 4
  | lambda | elementValue => 5
  | expression | annotationArgument => 6
  | variableInitializer | blockStatement | resourceList => 7
  | blockStatements | caseStatements => 8
  | _ => 0

/-- The nonterminals that pass a token. The others may be empty. -/
def moves {α : Type} : Rule α → Bool
  | annotationList | heading | members | blockStatements | switchCases | caseStatements |
    resourceList | catchList
  | binaryRest _ _ | selection _ | dimensionList | importList | classList => false
  | _ => true

/-- A round of calls without a token in between is short. -/
theorem rank_lt {α : Type} (X : Rule α) : X.rank < rankBound := by
  cases X <;> simp [rank, rankBound]

/-- Without a bound nothing is read. -/
theorem parse_zero {α : Type} (X : Rule α) : X.parse 0 = tooDeep := by
  cases X <;> rfl

end Rule

/-! ## Looking ahead -/

section LookAhead

variable {α : Type} {cut : Prop} {tokens : List Token} {k n m : Nat} {passed passed' : Bool}
  {s : State}
  {p p' : Parse α}

/-- The loop runs over a collection: a heading, a type and a name stand in front of a colon. -/
def runsOver (n : Nat) (s : State) : Bool :=
  (behind? (heading n) s).any fun s => (behind? (typeTree n) s).any fun s => s.isNameAt 0 &&
    s.isAt 1 ":"

/-- What a look-ahead finds does not depend on the bound. -/
theorem behind?_eq (h : LeadsAt cut tokens k passed s p p') : behind? p' s = behind? p s := by
  rw [behind?, behind?, h.1]

theorem from_of_behind? {s' : State} (h : LeadsAt cut tokens k passed s p p')
    (found : behind? p s = some s') :
    s'.From tokens k passed := by
  obtain ⟨-, outcome⟩ := h
  unfold behind? at found
  cases run : p s with
  | error e => simp [run] at found
  | ok x =>
    rw [run] at outcome found
    cases found
    exact outcome

/-- A declaration is recognised the same at every bound that is enough for its type. -/
theorem declaresVariable_eq (type : Leads cut tokens k passed true (typeTree n) (typeTree m))
    (from_ : s.From tokens k passed) : declaresVariable m s = declaresVariable n s := by
  rw [declaresVariable, declaresVariable, behind?_eq (type s from_)]

/-- So is a cast. -/
theorem isCast_eq (type : Leads cut tokens k true true (typeTree n) (typeTree m))
    (from_ : s.From tokens k passed) :
    (s.is "(" && isCast m s) = (s.is "(" && isCast n s) := by
  cases opens : s.is "(" with
  | false => rfl
  | true =>
    have inside := type s.bump (from_.bump (State.not_atEnd_of_is opens))
    rw [isCast, isCast, behind?_eq inside]

/-- So is a heading. -/
theorem runsOver_eq (head : Leads cut tokens k passed passed (heading n) (heading m))
    (type : Leads cut tokens k passed true (typeTree n) (typeTree m))
      (from_ : s.From tokens k passed) :
    runsOver m s = runsOver n s := by
  rw [runsOver, runsOver, behind?_eq (head s from_)]
  cases found : behind? (heading n) s with
  | none => rfl
  | some s' =>
    rw [Option.any_some, Option.any_some,
      behind?_eq (type s' (from_of_behind? (head s from_) found))]

end LookAhead

/-! ## Tokens that are not the end -/

section NotEnd

variable {cut : Prop} {tokens : List Token} {k : Nat} {passed : Bool} {s : State}

/-- There is no operator at the end. -/
theorem unaryOp?_inside {op : UnaryOp} (found : unaryOp? s = some op) : s.atEnd = false := by
  unfold unaryOp? at found
  split at found
  · next mark =>
    rw [State.atEnd, eq_of_beq mark]
    rfl
  · cases found

/-- The marks of an operator are taken, and there is at least one. -/
theorem leads_operator {α : Type} {op : BinaryOp} {width : Nat} {passed' : Bool}
    {q q' : Space → PUnit → Parse α}
    (from_ : s.From tokens k passed) (found : binaryOp? s = some (op, width))
    (rest : ∀ space u, Leads cut tokens k true passed' (q space u) (q' space u)) :
    LeadsAt cut tokens k passed' s
      (leading >>= fun space => (modify fun s => Nat.repeat State.bump width s) >>= q space)
      (leading >>= fun space => (modify fun s => Nat.repeat State.bump width s) >>= q' space) := by
  have more : s.atEnd = false := binaryOp?_inside found
  obtain ⟨least, rfl⟩ : ∃ least, width = least + 1 := by
    obtain ⟨rfl, -⟩ | ⟨-, rfl, -⟩ | ⟨-, rfl, -⟩ := binaryOp?_cases found
    · exact ⟨0, rfl⟩
    · exact ⟨1, rfl⟩
    · exact ⟨2, rfl⟩
  have taken : State.From tokens k passed { s with taken := true } := from_.of_tokens rfl
  have bumps : State.From tokens k true
    (Nat.repeat State.bump (least + 1) { s with taken := true }) := by
    clear found
    induction least with
    | zero => exact taken.bump more
    | succ least ih => exact ih.bump_weak
  obtain ⟨space, run, -⟩ := leading_run s
  have front (f : Space → PUnit → Parse α) :
      (leading >>= fun space =>
          (modify fun s => Nat.repeat State.bump (least + 1) s) >>= f space) s =
        f space ⟨⟩ (Nat.repeat State.bump (least + 1) { s with taken := true }) := by
    change (leading s >>= fun x => _) = _
    rw [run]
    rfl
  rw [LeadsAt, front q, front q']
  exact rest space ⟨⟩ _ bumps

/-- A literal takes its token. -/
theorem leads_literal (from_ : s.From tokens k passed) (more : s.atEnd = false) :
    LeadsAt cut tokens k true s literal literal := by
  unfold literal
  refine .next from_ more fun y => ?_
  dsimp only
  split
  · exact .fresh fun _ => .pure _ id
  · exact fun _ _ => ⟨rfl, nofun⟩

end NotEnd

/-! ## Calls -/

/-- What a nonterminal of rank `r` may rely on at the place `k`: its calls there, of a lower rank,
its calls behind it, and bounds that are enough for the loops. -/
structure Calls (cut : Prop) (tokens : List Token) (n m k r : Nat) : Prop where
  here {α : Type} (X : Rule α) (lower : X.rank < r) : Leads cut tokens k false X.moves (X.parse n)
    (X.parse m)
  behind {α : Type} (X : Rule α) (k' : Nat) (lt : k < k') :
    Leads cut tokens k' false X.moves (X.parse n) (X.parse m)
  enough : Enough cut (tokens.length - k) n m

namespace Calls

variable {cut : Prop} {tokens : List Token} {k n m r : Nat}

section

variable (calls : Calls cut tokens n m k r)
include calls

/-- Behind a token every call may be made. -/
theorem later {α : Type} (X : Rule α) : Leads cut tokens k true true (X.parse n) (X.parse m) :=
  .later (calls.behind X (k + 1) (Nat.lt_succ_self k))

/-- Elements behind a token. -/
theorem each {α : Type} (X : Rule α) (moves : X.moves = true) (k' : Nat) (lt : k < k') :
    Leads cut tokens k' false true (X.parse n) (X.parse m) := moves ▸ calls.behind X k' lt

theorem arrayRest (tree : TypeTree) : Leads cut tokens k true true (arrayRest tree n)
    (arrayRest tree m) :=
  .later (leads_arrayRest (calls.enough.mono (by omega)) tree)

end

/-! ### Types -/

/-- A type begins with a token of its own, so its parts are read further on. -/
theorem typeBase (calls : Calls cut tokens n m k (Rule.rank .typeBase)) :
    Leads cut tokens k false true (Parser.typeBase (n + 1)) (Parser.typeBase (m + 1)) := by
  rw [Parser.typeBase, Parser.typeBase]
  refine .lookAt fun s from_ => .ite (fun _ => ?_) fun _ => ?_
  · refine Leads.expect (fun _ => .look fun _ _ => .ite ?_ (.fresh fun _ => .pure _ id)) s from_
    exact .leading fun _ => .bump fun _ => (calls.later .typeTree).bind fun _ => .fresh fun _ =>
      .pure _ id
  · split
    · next found =>
      have primitive : s.isPrimitive = true := by
        by_contra other
        rw [if_neg other] at found
        cases found
      have more : s.atEnd = false := State.not_atEnd_of_word (Bool.and_eq_true_iff.1 primitive).1
      exact .next from_ more fun _ => .fresh fun _ => .pure _ id
    · refine ((leads_qualifiedName calls.enough).bind fun _ => .is fun _ => .ite ?_ (.pure _ id)) s
        from_
      exact (leads_container "<" ">" (calls.each .typeTree rfl) calls.enough).bind fun _ =>
        .fresh fun _ => .pure _ id

theorem typeTree (calls : Calls cut tokens n m k (Rule.rank .typeTree)) :
    Leads cut tokens k false true (Parser.typeTree (n + 1)) (Parser.typeTree (m + 1)) := by
  rw [Parser.typeTree, Parser.typeTree]
  exact (calls.here .typeBase (by decide)).bind fun base => calls.arrayRest base

/-! ### Declarations -/

theorem annotationList (calls : Calls cut tokens n m k (Rule.rank .annotationList)) :
    Leads cut tokens k false false (Parser.annotationList (n + 1))
      (Parser.annotationList (m + 1)) := by
  rw [Parser.annotationList, Parser.annotationList]
  refine .ask fun _ => .ite ((calls.here .annotationItem (by decide)).bind fun _ => ?_) (.pure _ id)
  exact (calls.later .annotationList).bind fun _ => .give _

/-- A heading may take nothing, so what follows it has to have a lower rank. -/
theorem heading (calls : Calls cut tokens n m k (Rule.rank .heading)) :
    Leads cut tokens k false false (Parser.heading (n + 1)) (Parser.heading (m + 1)) := by
  rw [Parser.heading, Parser.heading]
  refine .leading fun _ => (calls.here .annotationList (by decide)).bind fun _ => ?_
  exact (leads_modifierList calls.enough).bind fun _ => .pure _ id

theorem annotationItem (calls : Calls cut tokens n m k (Rule.rank .annotationItem)) :
    (Leads cut tokens k false true <| Parser.annotation (n + 1)) <| Parser.annotation (m + 1) := by
  rw [Parser.annotation, Parser.annotation]
  refine .expect fun _ => (leads_qualifiedName calls.enough).bind fun _ => .is fun _ => ?_
  extract_lets -underBinder tail
  have join (arguments : Option (Container Expression)) :
    Leads cut tokens k true true (tail arguments) (tail arguments) :=
    .fresh fun _ => .pure _ id
  refine .ite ?_ (join none)
  exact (leads_container "(" ")" (calls.each .annotationArgument rfl) calls.enough).bind
    fun arguments =>
    join (some arguments)

theorem annotationArgument (calls : Calls cut tokens n m k (Rule.rank .annotationArgument)) :
    Leads cut tokens k false true (Parser.annotationArgument (n + 1))
      (Parser.annotationArgument (m + 1)) := by
  rw [Parser.annotationArgument, Parser.annotationArgument]
  refine .ask fun _ => .ite ?_ (calls.here .elementValue (by decide))
  refine leads_ident.bind fun _ => .expect fun _ => (calls.later .elementValue).bind fun _ => ?_
  exact .fresh fun _ => .pure _ id

theorem elementValue (calls : Calls cut tokens n m k (Rule.rank .elementValue)) :
    Leads cut tokens k false true (Parser.elementValue (n + 1)) (Parser.elementValue (m + 1)) := by
  rw [Parser.elementValue, Parser.elementValue]
  refine .look fun _ _ =>
    .ite (.leading fun _ => ?_) (.ite .refuse (calls.here .ternary (by decide)))
  exact (leads_container _ _ (calls.each .elementValue rfl) calls.enough).bind fun _ =>
    .fresh fun _ => .pure _ id

/-- The keyword stands between the heading and the body. -/
theorem classDeclaration (h : Heading)
    (calls : Calls cut tokens n m k (Rule.rank (.classDeclaration h))) :
    Leads cut tokens k false true (Parser.classDeclaration h (n + 1))
      (Parser.classDeclaration h (m + 1)) := by
  rw [Parser.classDeclaration, Parser.classDeclaration]
  refine .next fun y => ?_
  dsimp -zeta only
  extract_lets -underBinder tail tail'
  have declared (keyword : ClassKeyword) : Leads cut tokens k false true (tail keyword)
    (tail' keyword) := by
    unfold tail tail'
    refine leads_ident.bind fun name => .is fun _ => ?_
    extract_lets -underBinder tail tail'
    have plain : Leads cut tokens k true true (tail ()) (tail' ()) := by
      refine .is fun extended => ?_
      extract_lets -underBinder tail tail'
      have derived (superclass : Option (LeftPadded TypeTree)) :
          Leads cut tokens k true true (tail superclass) (tail' superclass) := by
        refine .is fun _ => ?_
        extract_lets -underBinder tail tail'
        have ended (interfaces : Option (Container TypeTree)) :
            Leads cut tokens k true true (tail interfaces) (tail' interfaces) :=
          (calls.later .classBody).bind fun _ => .fresh fun _ => .pure _ id
        have listed (word : String) : Leads cut tokens k true true
            (keywordList word (Parser.typeTree n) n >>= fun list => tail (some list))
            (keywordList word (Parser.typeTree m) m >>= fun list => tail' (some list)) :=
          (leads_keywordList word (calls.each .typeTree rfl) calls.enough).bind fun list =>
            ended (some list)
        exact .ite (listed _) (.ite (listed _) (ended none))
      refine .ite (.expect fun before => ?_) (derived none)
      exact (calls.later .typeTree).bind fun type => derived (some ⟨before, type⟩)
    exact .ite .refuse_bind plain
  split
  · exact declared .clazz
  · exact declared .interface
  · exact .refuse_bind

theorem classBody (calls : Calls cut tokens n m k (Rule.rank .classBody)) :
    Leads cut tokens k false true (Parser.classBody (n + 1)) (Parser.classBody (m + 1)) := by
  rw [Parser.classBody, Parser.classBody]
  refine .expect fun _ => (calls.later .members).bind fun _ => .expect fun _ => .fresh fun _ =>
    .pure _ id

/-- Each member takes a token, so the list goes on further behind. -/
theorem members (calls : Calls cut tokens n m k (Rule.rank .members)) :
    Leads cut tokens k false false (Parser.members (n + 1)) (Parser.members (m + 1)) := by
  rw [Parser.members, Parser.members]
  refine .look fun _ _ => .ite (.pure _ id) ?_
  extract_lets -underBinder tail tail'
  have more : Leads cut tokens k false false (tail ()) (tail' ()) := by
    refine .ite (.expect fun _ => .fresh fun _ => ?_)
      ((calls.here .member (by decide)).bind fun _ => ?_)
    · exact (calls.later .members).bind fun _ => .give _
    · exact (calls.later .members).bind fun _ => .give _
  exact .ite .refuse_bind more

theorem member (calls : Calls cut tokens n m k (Rule.rank .member)) :
    Leads cut tokens k false true (Parser.member (n + 1)) (Parser.member (m + 1)) := by
  rw [Parser.member, Parser.member]
  refine (calls.here .heading (by decide)).bind fun h => .look fun _ _ => .ite ?_ ?_
  · exact (calls.here (.classDeclaration h) (Nat.succ_pos _)).bind fun _ => .pure _ id
  extract_lets -underBinder tail tail'
  have other : Leads cut tokens k false true (tail ()) (tail' ()) := by
    refine .ite (calls.here (.methodDeclaration h none) (Nat.succ_pos _)) ?_
    refine (calls.here .typeTree (by decide)).bind fun type => .ask fun _ => .ite ?_ ?_
    · exact calls.later (.methodDeclaration h (some type))
    · exact (calls.later .declarators).bind fun _ => .expect fun _ => .fresh fun _ => .pure _ id
  exact .ite .refuse_bind other

/-- The name stands between the type and the parameters. -/
theorem methodDeclaration (h : Heading) (returnType : Option TypeTree)
    (calls : Calls cut tokens n m k (Rule.rank (.methodDeclaration h returnType))) :
    Leads cut tokens k false true (Parser.methodDeclaration h returnType (n + 1))
      (Parser.methodDeclaration h returnType (m + 1)) := by
  rw [Parser.methodDeclaration, Parser.methodDeclaration]
  refine leads_ident.bind fun _ => ?_
  refine (leads_container "(" ")" (calls.each .formalParameter rfl) calls.enough).bind fun _ =>
    .is fun _ => ?_
  extract_lets -underBinder tail tail'
  have thrown (throwing : Option (Container TypeTree)) :
    Leads cut tokens k true true (tail throwing) (tail' throwing) := by
    refine .is fun _ => ?_
    extract_lets -underBinder tail
    have ended (x : Option Block × Space) : Leads cut tokens k true true (tail x) (tail x) :=
      .fresh fun _ => .pure _ id
    refine .ite ((calls.later .block).bind fun body => ended (some body, .empty)) ?_
    exact .expect fun after => ended (none, after)
  refine .ite ?_ (thrown none)
  exact (leads_keywordList _ (calls.each .typeTree rfl) calls.enough).bind fun list =>
    thrown (some list)

theorem formalParameter (calls : Calls cut tokens n m k (Rule.rank .formalParameter)) :
    Leads cut tokens k false true (Parser.formalParameter (n + 1))
      (Parser.formalParameter (m + 1)) := by
  rw [Parser.formalParameter, Parser.formalParameter]
  refine (calls.here .heading
    (by decide)).bind fun h => (calls.here .typeTree (by decide)).bind fun type => ?_
  refine .is fun _ => ?_
  extract_lets -underBinder tail tail'
  have join (varargs : Option Space) : Leads cut tokens k true true (tail varargs)
    (tail' varargs) :=
    (calls.later (.namedVariable false)).bind fun v => leads_declareOne
  exact .ite (.expect fun space => join (some space)) (join none)

theorem namedVariable (withInitializer : Bool)
    (calls : Calls cut tokens n m k (Rule.rank (.namedVariable withInitializer))) :
    Leads cut tokens k false true (Parser.namedVariable withInitializer (n + 1))
      (Parser.namedVariable withInitializer (m + 1)) := by
  rw [Parser.namedVariable, Parser.namedVariable]
  refine .leading fun _ => leads_ident.bind fun _ => .is fun _ => ?_
  extract_lets -underBinder tail tail'
  have plain : Leads cut tokens k true true (tail ()) (tail' ()) := by
    refine .is fun _ => ?_
    extract_lets -underBinder tail
    have join (initializer : Option (LeftPadded Expression)) :
      Leads cut tokens k true true (tail initializer) (tail initializer) :=
      .fresh fun _ => .pure _ id
    refine .ite (.expect fun before => ?_) (join none)
    exact (calls.later .variableInitializer).bind fun value => join (some ⟨before, value⟩)
  exact .ite .refuse_bind plain

theorem variableInitializer (calls : Calls cut tokens n m k (Rule.rank .variableInitializer)) :
    Leads cut tokens k false true (Parser.variableInitializer (n + 1))
      (Parser.variableInitializer (m + 1)) := by
  rw [Parser.variableInitializer, Parser.variableInitializer]
  exact .is fun _ => .ite
    (calls.here .arrayInitializer (by decide)) (calls.here .expression (by decide))

theorem arrayInitializer (calls : Calls cut tokens n m k (Rule.rank .arrayInitializer)) :
    Leads cut tokens k false true (Parser.arrayInitializer (n + 1))
      (Parser.arrayInitializer (m + 1)) := by
  rw [Parser.arrayInitializer, Parser.arrayInitializer]
  refine .leading fun _ => ?_
  exact (leads_container _ _ (calls.each .variableInitializer rfl) calls.enough).bind fun _ =>
    .fresh fun _ => .pure _ id

theorem declarators (calls : Calls cut tokens n m k (Rule.rank .declarators)) :
    Leads cut tokens k false true (Parser.declarators (n + 1)) (Parser.declarators (m + 1)) := by
  rw [Parser.declarators, Parser.declarators]
  refine leads_commaSeparated (fun k' le => ?_) calls.enough
  obtain rfl | lt := Nat.eq_or_lt_of_le le
  · exact calls.here (.namedVariable true) (Nat.succ_pos _)
  · exact calls.behind (.namedVariable true) k' lt

theorem localVariables (calls : Calls cut tokens n m k (Rule.rank .localVariables)) :
    Leads cut tokens k false true (Parser.localVariables (n + 1))
      (Parser.localVariables (m + 1)) := by
  rw [Parser.localVariables, Parser.localVariables]
  refine (calls.here .heading
    (by decide)).bind fun _ => (calls.here .typeTree (by decide)).bind fun _ => ?_
  exact (calls.later .declarators).bind fun _ => .fresh fun _ => .pure _ id

/-! ### Statements -/

theorem block (calls : Calls cut tokens n m k (Rule.rank .block)) :
    Leads cut tokens k false true (Parser.block (n + 1)) (Parser.block (m + 1)) := by
  rw [Parser.block, Parser.block]
  exact .expect fun _ => (calls.later .blockStatements).bind fun _ => .expect fun _ =>
    .fresh fun _ => .pure _ id

theorem blockStatements (calls : Calls cut tokens n m k (Rule.rank .blockStatements)) :
    Leads cut tokens k false false (Parser.blockStatements (n + 1))
      (Parser.blockStatements (m + 1)) := by
  rw [Parser.blockStatements, Parser.blockStatements]
  refine .look fun _ _ => .ite (.pure _ id) ?_
  extract_lets -underBinder tail tail'
  have more : Leads cut tokens k false false (tail ()) (tail' ()) :=
    (calls.here .blockStatement
      (by decide)).bind fun _ => (calls.later .blockStatements).bind fun _ => .give _
  exact .ite .refuse_bind more

/-- Each kind of statement has a lower rank than the statements of a block. -/
theorem blockStatement (calls : Calls cut tokens n m k (Rule.rank .blockStatement)) :
    Leads cut tokens k false true (Parser.blockStatement (n + 1))
      (Parser.blockStatement (m + 1)) := by
  rw [Parser.blockStatement, Parser.blockStatement]
  refine .look fun s from_ => ?_
  rw [declaresVariable_eq (calls.here .typeTree (by decide)).behind from_]
  refine .ite ((calls.here .block (by decide)).bind fun _ => .pure _ id) ?_
  refine .ite (.expect fun _ => .fresh fun _ => .pure _ id) ?_
  refine .ite ?returns (.ite ?throws (.ite (calls.here .ifStatement (by decide)) (.ite ?loop
    (.ite (calls.here .forStatement
      (by decide)) (.ite (calls.here .tryStatement (by decide)) (.ite ?doWhile
      (.ite (calls.here .switchStatement
        (by decide)) (.ite ?jump (.ite ?clazz (.ite ?declaration ?expression))))))))))
  case returns =>
    refine .expect fun _ => .is fun _ => ?_
    extract_lets -underBinder tail
    have join (value : Option Expression) : Leads cut tokens k true true (tail value)
      (tail value) :=
      .expect fun _ => .fresh fun _ => .pure _ id
    exact .ite (join none) ((calls.later .expression).bind fun e => join (some e))
  case throws =>
    exact .expect fun _ => (calls.later .expression).bind fun _ => .expect fun _ => .fresh fun _ =>
      .pure _ id
  case loop =>
    refine .expect fun _ => (calls.later .parenthesized).bind fun _ =>
      (calls.later .blockStatement).bind fun _ => ?_
    exact .fresh fun _ => .pure _ id
  case doWhile =>
    refine .expect fun _ => (calls.later .blockStatement).bind fun _ => .expect fun _ => ?_
    exact (calls.later .parenthesized).bind fun _ => .expect fun _ => .fresh fun _ => .pure _ id
  case jump =>
    refine .next fun _ => .ask fun _ => ?_
    extract_lets -underBinder tail
    have join (label : Option Identifier) : Leads cut tokens k false true (tail label)
      (tail label) :=
      .expect fun _ => .fresh fun _ => .pure _ id
    exact .ite (leads_ident.bind fun label => (join (some label)).behind) (join none)
  case clazz =>
    exact (calls.here .heading (by decide)).bind fun h =>
      (calls.here (.classDeclaration h) (Nat.succ_pos _)).bind fun _ => .pure _ id
  case declaration =>
    exact (calls.here .localVariables (by decide)).bind fun _ => .expect fun _ => .pure _ id
  case expression =>
    exact (calls.here .expression (by decide)).bind fun _ => .expect fun _ => .pure _ id

theorem parenthesized (calls : Calls cut tokens n m k (Rule.rank .parenthesized)) :
    Leads cut tokens k false true (Parser.parenthesized (n + 1))
      (Parser.parenthesized (m + 1)) := by
  rw [Parser.parenthesized, Parser.parenthesized]
  exact .expect fun _ => (calls.later .expression).bind fun _ => .expect fun _ => .pure _ id

theorem ifStatement (calls : Calls cut tokens n m k (Rule.rank .ifStatement)) :
    Leads cut tokens k false true (Parser.ifStatement (n + 1)) (Parser.ifStatement (m + 1)) := by
  rw [Parser.ifStatement, Parser.ifStatement]
  refine .expect fun _ => (calls.later .parenthesized).bind fun _ =>
    (calls.later .blockStatement).bind fun _ => ?_
  refine .is fun _ => ?_
  extract_lets -underBinder tail
  have join (otherwise : Option Else) : Leads cut tokens k true true (tail otherwise)
    (tail otherwise) :=
    .fresh fun _ => .pure _ id
  refine .ite (.expect fun before => (calls.later .blockStatement).bind fun body => ?_) (join none)
  exact .fresh fun id => join (some ⟨id, before, body⟩)

theorem forStatement (calls : Calls cut tokens n m k (Rule.rank .forStatement)) :
    Leads cut tokens k false true (Parser.forStatement (n + 1)) (Parser.forStatement (m + 1)) := by
  rw [Parser.forStatement, Parser.forStatement]
  refine .expect fun _ => .expect fun _ => .look fun s from_ => ?_
  change Leads cut tokens k true true (if runsOver n s = true then _ else _)
    (if runsOver m s = true then _ else _)
  rw [runsOver_eq (calls.later .heading) (calls.later .typeTree) from_,
    declaresVariable_eq (calls.later .typeTree) from_]
  refine .ite ?_ ?_
  · refine (calls.later .heading).bind fun h => (calls.later .typeTree).bind fun _ => ?_
    refine (calls.later (.namedVariable false)).bind fun _ => .expect fun _ =>
      (calls.later .expression).bind fun _ => ?_
    refine .expect fun _ => (calls.later .blockStatement).bind fun _ =>
      leads_declareOne.bind fun _ => ?_
    exact .fresh fun _ => .pure _ id
  · extract_lets -underBinder tail tail'
    have first (init : Option Statement) : Leads cut tokens k true true (tail init)
      (tail' init) := by
      refine .expect fun _ => .is fun _ => ?_
      extract_lets -underBinder tail tail'
      have second (condition : Option Expression) : Leads cut tokens k true true (tail condition)
        (tail' condition) := by
        refine .expect fun _ => .is fun _ => ?_
        extract_lets -underBinder tail tail'
        have third (update : List (Padded Expression)) : Leads cut tokens k true true (tail update)
          (tail' update) :=
          .expect fun _ => (calls.later .blockStatement).bind fun _ => .fresh fun _ => .pure _ id
        exact .ite (third [])
          ((leads_elements (calls.each .expression rfl) calls.enough).bind third)
      exact .ite (second none) ((calls.later .expression).bind fun e => second (some e))
    refine .ite (first none) (.ite ?_ ?_)
    · exact (calls.later .localVariables).bind fun _ => first (some _)
    · exact (calls.later .expression).bind fun _ => first (some _)

theorem switchStatement (calls : Calls cut tokens n m k (Rule.rank .switchStatement)) :
    Leads cut tokens k false true (Parser.switchStatement (n + 1))
      (Parser.switchStatement (m + 1)) := by
  rw [Parser.switchStatement, Parser.switchStatement]
  refine .expect fun _ => (calls.later .parenthesized).bind fun _ => .expect fun _ => ?_
  exact (calls.later .switchCases).bind fun _ => .expect fun _ => .fresh fun _ => .pure _ id

theorem switchCases (calls : Calls cut tokens n m k (Rule.rank .switchCases)) :
    Leads cut tokens k false false (Parser.switchCases (n + 1)) (Parser.switchCases (m + 1)) := by
  rw [Parser.switchCases, Parser.switchCases]
  refine .look fun _ _ => .ite (.pure _ id) ?_
  extract_lets -underBinder tail tail'
  have more : Leads cut tokens k false false (tail ()) (tail' ()) :=
    (calls.here .switchCase
      (by decide)).bind fun _ => (calls.later .switchCases).bind fun _ => .give _
  exact .ite .refuse_bind more

/-- A case takes its first word before it goes on. -/
theorem switchCase (calls : Calls cut tokens n m k (Rule.rank .switchCase)) :
    Leads cut tokens k false true (Parser.switchCase (n + 1)) (Parser.switchCase (m + 1)) := by
  rw [Parser.switchCase, Parser.switchCase]
  refine .look fun _ _ => ?_
  extract_lets -underBinder tail tail'
  have labelled (y : Space × List (Padded Expression)) :
    Leads cut tokens k true true (tail y) (tail' y) := by
    refine .is fun _ => .ite ?_ ?_
    · exact .expect fun _ => (calls.later .blockStatement).bind fun _ => .fresh fun _ => .pure _ id
    · exact .expect fun _ => (calls.later .caseStatements).bind fun _ => .fresh fun _ => .pure _ id
  refine .ite (.expect fun space => labelled (space, []))
    (.ite (.expect fun space => ?_) .refuse_bind)
  exact (leads_elements (calls.each .ternary rfl) calls.enough).bind fun labels =>
    labelled (space, labels)

theorem caseStatements (calls : Calls cut tokens n m k (Rule.rank .caseStatements)) :
    Leads cut tokens k false false (Parser.caseStatements (n + 1))
      (Parser.caseStatements (m + 1)) := by
  rw [Parser.caseStatements, Parser.caseStatements]
  refine .look fun _ _ => .ite (.pure _ id) ?_
  extract_lets -underBinder tail tail'
  have more : Leads cut tokens k false false (tail ()) (tail' ()) :=
    (calls.here .blockStatement
      (by decide)).bind fun _ => (calls.later .caseStatements).bind fun _ => .give _
  exact .ite .refuse_bind more

theorem resourceList (calls : Calls cut tokens n m k (Rule.rank .resourceList)) :
    Leads cut tokens k false false (Parser.resourceList (n + 1)) (Parser.resourceList (m + 1)) := by
  rw [Parser.resourceList, Parser.resourceList]
  refine .look fun s from_ => .ite (.pure _ id) ?_
  rw [declaresVariable_eq (calls.here .typeTree (by decide)).behind from_]
  extract_lets -underBinder tail tail'
  have join (resource : Statement) : Leads cut tokens k true false (tail resource)
    (tail' resource) := by
    refine .is fun _ => .ite (.expect fun _ => ?_) (.give _)
    exact (calls.later .resourceList).bind fun _ => .give _
  refine .ite ?_ ?_
  · exact (calls.here .localVariables (by decide)).bind fun _ => join _
  · exact (calls.here .expression (by decide)).bind fun _ => join _

theorem tryResources (calls : Calls cut tokens n m k (Rule.rank .tryResources)) :
    Leads cut tokens k false true (Parser.tryResources (n + 1)) (Parser.tryResources (m + 1)) := by
  rw [Parser.tryResources, Parser.tryResources]
  refine .expect fun _ => (calls.later .resourceList).bind fun read => ?_
  obtain ⟨resources, terminated⟩ := read
  dsimp -zeta only
  extract_lets -underBinder tail
  have some_ : Leads cut tokens k true true (tail ()) (tail ()) := .expect fun _ => .pure _ id
  exact .ite .refuse_bind some_

theorem tryStatement (calls : Calls cut tokens n m k (Rule.rank .tryStatement)) :
    Leads cut tokens k false true (Parser.tryStatement (n + 1)) (Parser.tryStatement (m + 1)) := by
  rw [Parser.tryStatement, Parser.tryStatement]
  refine .expect fun _ => .is fun _ => ?_
  extract_lets -underBinder tail tail'
  have tried (resources : Option TryResources) : Leads cut tokens k true true (tail resources)
    (tail' resources) := by
    refine (calls.later .block).bind fun _ => (calls.later .catchList).bind fun _ => .is fun _ => ?_
    extract_lets -underBinder tail
    have finished (finalizer : Option (LeftPadded Block)) :
      Leads cut tokens k true true (tail finalizer) (tail finalizer) := by
      unfold tail
      extract_lets -underBinder tail
      have handled : Leads cut tokens k true true (tail ()) (tail ()) := .fresh fun _ => .pure _ id
      exact .ite .refuse_bind handled
    exact .ite (.expect fun before => (calls.later .block).bind fun block =>
      finished (some ⟨before, block⟩)) (finished none)
  exact .ite ((calls.later .tryResources).bind fun resources => tried (some resources)) (tried none)

theorem catchList (calls : Calls cut tokens n m k (Rule.rank .catchList)) :
    Leads cut tokens k false false (Parser.catchList (n + 1)) (Parser.catchList (m + 1)) := by
  rw [Parser.catchList, Parser.catchList]
  refine .is fun _ => .ite (.expect fun _ => .expect fun _ => (calls.later .heading).bind fun h =>
    ?_) (.pure _ id)
  refine (calls.later .typeTree).bind fun _ => .is fun _ => ?_
  extract_lets -underBinder tail tail'
  have single : Leads cut tokens k true false (tail ()) (tail' ()) := by
    refine (calls.later (.namedVariable false)).bind fun _ => .expect fun _ =>
      (calls.later .block).bind fun _ => ?_
    exact leads_declareOne.bind fun _ => .fresh fun _ => (calls.later .catchList).bind fun _ =>
      .give _
  exact .ite .refuse_bind single

/-! ### Expressions -/

/-- An expression goes on in place only to what has a lower rank. -/
theorem expression (calls : Calls cut tokens n m k (Rule.rank .expression)) :
    Leads cut tokens k false true (Parser.expression (n + 1)) (Parser.expression (m + 1)) := by
  rw [Parser.expression, Parser.expression]
  refine .ask fun _ =>
    .ite (calls.here .lambda (by decide)) ((calls.here .ternary (by decide)).bind fun _ => ?_)
  refine .look fun _ _ => ?_
  split
  · exact .pure _ id
  · exact .next fun _ => (calls.later .expression).bind fun _ => .fresh fun _ => .pure _ id

theorem lambda (calls : Calls cut tokens n m k (Rule.rank .lambda)) :
    Leads cut tokens k false true (Parser.lambda (n + 1)) (Parser.lambda (m + 1)) := by
  rw [Parser.lambda, Parser.lambda]
  refine .leading fun _ => .is fun parenthesized => ?_
  extract_lets -underBinder tail tail'
  have headed (parameters : Container VariableDeclarations) :
      Leads cut tokens k true true (tail parameters) (tail' parameters) := by
    refine .expect fun _ => .is fun _ => ?_
    extract_lets -underBinder tail
    have join (body : LambdaBody) : Leads cut tokens k true true (tail body) (tail body) :=
      .fresh fun _ => .pure _ id
    refine .ite ((calls.later .block).bind fun block => join (.block block)) ?_
    exact (calls.later .expression).bind fun e => join (.expression e)
  refine .ite ?_ ?_
  · exact (leads_container "(" ")" (calls.each .lambdaParameter rfl) calls.enough).bind headed
  · exact (calls.here .lambdaParameter
      (by decide)).bind fun v => headed ⟨.empty, [.tight v], .empty⟩

theorem lambdaParameter (calls : Calls cut tokens n m k (Rule.rank .lambdaParameter)) :
    Leads cut tokens k false true (Parser.lambdaParameter (n + 1))
      (Parser.lambdaParameter (m + 1)) := by
  rw [Parser.lambdaParameter, Parser.lambdaParameter]
  refine .ask fun _ => .ite (.leading fun _ => ?_) (calls.here .formalParameter (by decide))
  exact (calls.here (.namedVariable false) (Nat.succ_pos _)).bind fun _ => leads_declareOne

theorem ternary (calls : Calls cut tokens n m k (Rule.rank .ternary)) :
    Leads cut tokens k false true (Parser.ternary (n + 1)) (Parser.ternary (m + 1)) := by
  rw [Parser.ternary, Parser.ternary]
  have lower : Rule.rank (.binary 1) < Rule.rank .ternary := Nat.lt_succ_self 3
  refine (calls.here (.binary 1) lower).bind fun _ => .is fun _ => .ite ?_ (.pure _ id)
  refine .expect fun _ => (calls.later .expression).bind fun _ => .expect fun _ => .ask fun _ => ?_
  extract_lets -underBinder tail
  have join (whenFalse : Expression) : Leads cut tokens k true true (tail whenFalse)
    (tail whenFalse) :=
    .fresh fun _ => .pure _ id
  exact .ite ((calls.later .lambda).bind join) ((calls.later .ternary).bind join)

/-- The operands are read at the same place, with a lower rank. -/
theorem binary (least : Nat) (calls : Calls cut tokens n m k (Rule.rank (.binary least))) :
    Leads cut tokens k false true (Parser.binary least (n + 1)) (Parser.binary least (m + 1)) := by
  rw [Parser.binary, Parser.binary]
  have lower : Rule.rank .unary < Rule.rank (.binary least) := Nat.lt_succ_self 2
  exact (calls.here .unary lower).bind fun left => calls.later (.binaryRest least left)

/-- The operator stands in front of the right operand. -/
theorem binaryRest (least : Nat) (left : Expression)
    (calls : Calls cut tokens n m k (Rule.rank (.binaryRest least left))) :
    Leads cut tokens k false false (Parser.binaryRest least left (n + 1))
      (Parser.binaryRest least left (m + 1)) := by
  rw [Parser.binaryRest, Parser.binaryRest]
  refine .lookAt fun s from_ => ?_
  split
  · exact Leads.pure _ id s from_
  · next op width found =>
    have operator : binaryOp? s = some (op, width) := (Option.filter_eq_some_iff.1 found).1
    refine leads_operator from_ operator fun space _ => ?_
    extract_lets -underBinder tail tail'
    have next (left : Expression) :
        Leads cut tokens k true false (Parser.binaryRest least left n)
          (Parser.binaryRest least left m) :=
      (calls.later (.binaryRest least left)).weaken
    have join (right : Expression) : Leads cut tokens k true false (tail right) (tail' right) :=
      .fresh fun _ => next _
    have operand (least : Nat) : Leads cut tokens k true true (Parser.binary least n)
      (Parser.binary least m) :=
      calls.later (.binary least)
    refine .ite ((calls.later .typeTree).bind fun type => ?_) ((operand _).bind join)
    split
    · exact join _
    · exact .refuse_bind

theorem unary (calls : Calls cut tokens n m k (Rule.rank .unary)) :
    Leads cut tokens k false true (Parser.unary (n + 1)) (Parser.unary (m + 1)) := by
  rw [Parser.unary, Parser.unary]
  refine .lookAt fun s from_ => ?_
  rw [isCast_eq (calls.later .typeTree) from_]
  split
  · next op found =>
    exact .next from_ (unaryOp?_inside found) fun _ => (calls.later .unary).bind fun _ =>
      .fresh fun _ => .pure _ id
  · refine Leads.ite (.expect fun _ => (calls.later .typeTree).bind fun _ => .expect fun _ => ?_) ?_
      s from_
    · exact (calls.later .unary).bind fun _ => .fresh fun _ => .pure _ id
    · exact (calls.here .primary (by decide)).bind fun target => calls.later (.selection target)

theorem primary (calls : Calls cut tokens n m k (Rule.rank .primary)) :
    Leads cut tokens k false true (Parser.primary (n + 1)) (Parser.primary (m + 1)) := by
  rw [Parser.primary, Parser.primary]
  refine .lookAt fun s from_ => ?_
  extract_lets -underBinder text
  split
  any_goals exact leads_literal from_ (by simp [State.atEnd, *])
  · refine .ite (fun _ => leads_literal from_ (by simp [State.atEnd, *])) fun _ => ?_
    refine Leads.ite ?_ (.ite (calls.here .newExpression (by decide)) (.ite .refuse ?_)) s from_
    · exact leads_word.bind fun _ => .is fun _ => .ite .refuse_bind (.pure _ id)
    · refine leads_ident.bind fun _ => .is fun _ => .ite ?_ (.pure _ id)
      exact (leads_container "(" ")" (calls.each .expression rfl) calls.enough).bind fun _ =>
        .fresh fun _ => .pure _ id
  · refine Leads.ite ?_ (.ite (calls.here .arrayInitializer (by decide)) .refuse) s from_
    exact .expect fun _ => (calls.later .expression).bind fun _ => .expect fun _ => .fresh fun _ =>
      .pure _ id
  · exact Leads.refuse s from_

/-- The point or the bracket stands in front of what is selected. -/
theorem selection (target : Expression)
    (calls : Calls cut tokens n m k (Rule.rank (.selection target))) :
    Leads cut tokens k false false (Parser.selection target (n + 1))
      (Parser.selection target (m + 1)) := by
  rw [Parser.selection, Parser.selection]
  have next (target : Expression) : Leads cut tokens k true false (Parser.selection target n)
    (Parser.selection target m) :=
    (calls.later (.selection target)).weaken
  refine .lookAt fun s from_ => .ite (fun _ => ?member) fun _ => .ite (fun _ => ?index) fun _ =>
    .ite (fun _ => ?reference) fun _ => .ite (fun found => ?increment) fun _ =>
      Leads.pure _ id s from_
  case member =>
    extract_lets -underBinder tail tail'
    have plain : Leads cut tokens k false false (tail ()) (tail' ()) := by
      refine .expect fun _ => leads_word.bind fun name => ?_
      extract_lets -underBinder isPseudoField tail tail'
      have named : Leads cut tokens k true false (tail ()) (tail' ()) := by
        refine .is fun _ => .ite ?_ (.fresh fun _ => next _)
        exact (leads_container "(" ")" (calls.each .expression rfl) calls.enough).bind fun _ =>
          .fresh fun _ => next _
      exact .ite .refuse_bind named
    exact Leads.ite .refuse_bind plain s from_
  case index =>
    refine Leads.expect (fun _ => (calls.later .expression).bind fun _ => ?_) s from_
    exact .expect fun _ => .fresh fun _ => next _
  case reference =>
    exact Leads.expect (fun _ => leads_word.bind fun _ => .fresh fun _ => next _) s from_
  case increment =>
    have more : s.atEnd = false := by
      obtain plus | minus := Bool.or_eq_true_iff.1 found
      · exact State.not_atEnd_of_is plus
      · exact State.not_atEnd_of_is minus
    exact .next from_ more fun _ => .fresh fun _ => next _

theorem newExpression (calls : Calls cut tokens n m k (Rule.rank .newExpression)) :
    Leads cut tokens k false true (Parser.newExpression (n + 1))
      (Parser.newExpression (m + 1)) := by
  rw [Parser.newExpression, Parser.newExpression]
  refine .expect fun _ => (calls.later .typeBase).bind fun _ => .is fun _ => .ite ?_ ?_
  · refine (calls.later .dimensionList).bind fun _ => .is fun _ => ?_
    extract_lets -underBinder tail
    have join (initializer : Option (Container Expression)) :
      Leads cut tokens k true true (tail initializer) (tail initializer) :=
      .fresh fun _ => .pure _ id
    refine .ite ?_ (join none)
    exact (leads_container _ _ (calls.each .variableInitializer rfl) calls.enough).bind
      fun elements => join (some elements)
  · refine (leads_container "(" ")" (calls.each .expression rfl) calls.enough).bind fun _ =>
      .is fun _ => ?_
    extract_lets -underBinder tail
    have join (body : Option Block) : Leads cut tokens k true true (tail body) (tail body) :=
      .fresh fun _ => .pure _ id
    exact .ite ((calls.later .classBody).bind fun body => join (some body)) (join none)

theorem dimensionList (calls : Calls cut tokens n m k (Rule.rank .dimensionList)) :
    Leads cut tokens k false false (Parser.dimensionList (n + 1))
      (Parser.dimensionList (m + 1)) := by
  rw [Parser.dimensionList, Parser.dimensionList]
  refine .is fun _ => .ite (.expect fun _ => .is fun _ => ?_) (.pure _ id)
  extract_lets -underBinder tail tail'
  have join (index : Option Expression) : Leads cut tokens k true false (tail index)
    (tail' index) :=
    .expect fun _ => (calls.later .dimensionList).bind fun _ => .give _
  exact .ite (join none) ((calls.later .expression).bind fun e => join (some e))

/-! ### Units -/

/-- Each import begins with its keyword. -/
theorem importList (calls : Calls cut tokens n m k (Rule.rank .importList)) :
    Leads cut tokens k false false (Parser.importList (n + 1)) (Parser.importList (m + 1)) := by
  rw [Parser.importList, Parser.importList]
  refine .is fun _ => .ite (.expect fun _ => .is fun _ => ?_) (.pure _ id)
  extract_lets -underBinder tail tail'
  have join (static : Option Space) : Leads cut tokens k true false (tail static)
    (tail' static) := by
    refine (leads_importName calls.enough).bind fun _ => .expect fun _ => .fresh fun _ => ?_
    exact (calls.later .importList).bind fun _ => .give _
  exact .ite (.expect fun space => join (some space)) (join none)

theorem classList (calls : Calls cut tokens n m k (Rule.rank .classList)) :
    Leads cut tokens k false false (Parser.classList (n + 1)) (Parser.classList (m + 1)) := by
  rw [Parser.classList, Parser.classList]
  refine .ask fun _ =>
    .ite (.pure _ id) ((calls.here .heading (by decide)).bind fun h => .ask fun _ => ?_)
  refine .ite ((calls.here (.classDeclaration h) (Nat.succ_pos _)).bind fun _ => ?_) .refuse
  exact (calls.later .classList).bind fun _ => .give _

end Calls

variable {cut : Prop} {tokens : List Token} {k n m : Nat} {α : Type}

/-- A nonterminal leads on if its calls do. -/
theorem Rule.leads_succ (X : Rule α) (calls : Calls cut tokens n m k X.rank) :
    Leads cut tokens k false X.moves (X.parse (n + 1)) (X.parse (m + 1)) := by
  cases X with
  | typeBase => exact calls.typeBase
  | typeTree => exact calls.typeTree
  | annotationList => exact calls.annotationList
  | heading => exact calls.heading
  | annotationItem => exact calls.annotationItem
  | annotationArgument => exact calls.annotationArgument
  | elementValue => exact calls.elementValue
  | classDeclaration h => exact Calls.classDeclaration h calls
  | classBody => exact calls.classBody
  | members => exact calls.members
  | member => exact calls.member
  | methodDeclaration h returnType => exact Calls.methodDeclaration h returnType calls
  | formalParameter => exact calls.formalParameter
  | namedVariable withInitializer => exact Calls.namedVariable withInitializer calls
  | variableInitializer => exact calls.variableInitializer
  | arrayInitializer => exact calls.arrayInitializer
  | declarators => exact calls.declarators
  | localVariables => exact calls.localVariables
  | block => exact calls.block
  | blockStatements => exact calls.blockStatements
  | blockStatement => exact calls.blockStatement
  | parenthesized => exact calls.parenthesized
  | ifStatement => exact calls.ifStatement
  | forStatement => exact calls.forStatement
  | switchStatement => exact calls.switchStatement
  | switchCases => exact calls.switchCases
  | switchCase => exact calls.switchCase
  | caseStatements => exact calls.caseStatements
  | resourceList => exact calls.resourceList
  | tryResources => exact calls.tryResources
  | tryStatement => exact calls.tryStatement
  | catchList => exact calls.catchList
  | expression => exact calls.expression
  | lambda => exact calls.lambda
  | lambdaParameter => exact calls.lambdaParameter
  | ternary => exact calls.ternary
  | binary least => exact Calls.binary least calls
  | binaryRest least left => exact Calls.binaryRest least left calls
  | unary => exact calls.unary
  | primary => exact calls.primary
  | selection target => exact Calls.selection target calls
  | newExpression => exact calls.newExpression
  | dimensionList => exact calls.dimensionList
  | importList => exact calls.importList
  | classList => exact calls.classList

/-- A bound above the ranks of all tokens that are left is enough. -/
theorem Rule.leads (X : Rule α)
    (enough : Enough cut (rankBound * (tokens.length - k) + X.rank) n m) :
    Leads cut tokens k false X.moves (X.parse n) (X.parse m) := by
  have ranks : rankBound = 24 := rfl
  induction n generalizing k m α with
  | zero =>
    obtain ⟨held, rfl⟩ | ⟨above, -⟩ := enough
    · rw [X.parse_zero]
      exact .tooDeep held
    · exact absurd above (Nat.not_lt_zero _)
  | succ n ih =>
    cases m with
    | zero =>
      obtain ⟨-, no⟩ | ⟨-, above⟩ := enough
      · cases no
      · exact absurd above (Nat.not_lt_zero _)
    | succ m =>
      refine .of_inside fun inside =>
        X.leads_succ ⟨fun Y lower => ?_, fun Y k' lt => .of_inside fun inside' => ?_, ?_⟩
      · exact ih Y (enough.mono (Nat.add_lt_add_left lower _)).pred
      · have bounded := Y.rank_lt
        rw [ranks] at enough bounded
        exact ih Y (enough.mono (by rw [ranks]; omega)).pred
      · rw [ranks] at enough
        exact (enough.mono (by omega)).pred

end Retouch.Parser
