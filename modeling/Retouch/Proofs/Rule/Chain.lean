import Mathlib.Data.List.Nodup
import Retouch.Proofs.Template.Filling
import Retouch.Proofs.Text.Closed
import Retouch.Rule.AssertThat

/-!
# Chains

What the chain for an assertion reads (`Roles.text`), and that the templates of the conversions give
it: the code of every plan is one of twelve, the unit around each of them is read as a chain of
calls (`Chain.reads`), and the arguments of the plan fill that chain to the text of their roles
(`plan_chain`).
-/

namespace Retouch

namespace Rule

/-! ## What a chain says -/

/-- The parts that the arguments of an assertion play. -/
structure Roles where
  expected : Expression
  actual : Expression
  message : Option Expression
  tolerance : Option Expression

/-- A third argument is the tolerance if it is a floating-point number, and else the message; of
four the third is the tolerance and the fourth the message. -/
def Roles.ofArguments? : List Expression → Option Roles
  | [expected, actual] => some ⟨expected, actual, none, none⟩
  | [expected, actual, third] =>
    if third.type.isFloating then some ⟨expected, actual, none, some third⟩
    else some ⟨expected, actual, some third, none⟩
  | [expected, actual, tolerance, message] => some ⟨expected, actual, some message, some tolerance⟩
  | _ => none

/-- The text of an argument without the trivia in front of it. -/
def bare (e : Expression) : String := (e.withLeading .empty).print

/-- `assertThat(actual).as(message).close(expected, within(tolerance))`, as far as there is a
message and a tolerance; without a tolerance it ends in the exact comparison. -/
def Roles.text (exact close : String) (r : Roles) : String :=
  "assertThat(" ++ bare r.actual ++ ")" ++ (r.message.elim "" fun m => ".as(" ++ bare m ++ ")") ++
    "." ++
    match r.tolerance with
    | none => exact ++ "(" ++ bare r.expected ++ ")"
    | some t => close ++ "(" ++ bare r.expected ++ ", within(" ++ bare t ++ "))"

/-! ## The templates -/

/-- The words in which the chains of two conversions differ. -/
structure Wording where
  exact : String
  close : String
  operand : String
deriving DecidableEq

def Conversion.wording (c : Conversion) : Wording := ⟨c.exact, c.close, c.operand⟩

/-- The wordings of the conversions. -/
def wordings : List Wording :=
  [⟨"isEqualTo", "isCloseTo", "#\x7bany()\x7d"⟩,
    ⟨"containsExactly", "containsExactly", "#\x7banyArray()\x7d"⟩]

/-- A code, in pieces, and what it is read as. -/
structure Chain where
  pieces : List String
  within : Bool
  sketch : Sketch

namespace Chain

def code (c : Chain) : String := String.join c.pieces

def parameter (index : Nat) : Sketch := .word "" (Placeholder.parameterName index)

def subject : Sketch := .call "" [] "assertThat" [parameter 0]

def described : Sketch := .call "" [subject] "as" [parameter 1]

/-- The exact comparison behind the start of a chain, and its place among the parameters. -/
def exactly (w : Wording) (start : Sketch) (index : Nat) : Sketch :=
  .call " " [start] w.exact [parameter index]

def closely (w : Wording) (start : Sketch) (index : Nat) : Sketch :=
  .call " " [start] w.close [parameter index, .call " " [] "within" [parameter (index + 1)]]

/-- The two ends behind the start of a chain, in pieces and as a sketch. -/
def ends (w : Wording) (pieces : List String) (start : Sketch) (index : Nat) : List Chain :=
  [⟨pieces ++ [w.exact, "(", w.operand, ")"], false, exactly w start index⟩,
    ⟨pieces ++ [w.close, "(", w.operand, ", within(#\x7bany()\x7d))"], true, closely w start index⟩]

/-- The chains of a wording: without a message, and with either kind of message. -/
def ofWording (w : Wording) : List Chain :=
  ends w ["assertThat(", w.operand, ")."] subject 1 ++
    ["#\x7bany(String)\x7d", "#\x7bany(" ++ supplierName ++ ")\x7d"].flatMap fun message =>
      ends w ["assertThat(", w.operand, ").", "as(", message, ")."] described 2

def all : List Chain := wordings.flatMap ofWording

/-- The static members that the code calls. -/
def staticImports (within : Bool) : List String :=
  (assertjAssertions ++ ".assertThat") :: if within then [assertjAssertions ++ ".within"] else []

/-- The chain is read as its sketch. -/
def holds (c : Chain) (n : NodeId) : Bool :=
  let chars := c.pieces.flatMap String.toList
  !chars.contains '\x00' &&
    match Placeholder.parametrize 0 0 chars with
    | .error _ => false
    | .ok (code, _) =>
      Template.holds c.sketch [supplierName] (staticImports c.within) code n

/-- All chains are read as their sketches. -/
def allHold (n : NodeId) : Bool := all.all (holds · n)

-- The parser hands ids on and never looks at them, so it runs on an id that is not known to it. If
-- the chains were read wrong from some id on, then from the one that the choice gives.
theorem forall_of_chosen {f : NodeId → Bool}
    (chosen : f (Classical.epsilon fun n => f n = false) = true) : ∀ n, f n = true := by
  by_contra wrong
  obtain ⟨n, wrong⟩ := not_forall.1 wrong
  have := Classical.epsilon_spec (p := fun n => f n = false) ⟨n, Bool.eq_false_iff.2 wrong⟩
  exact Bool.false_ne_true (this.symm.trans chosen)

theorem allHold_eq : ∀ n, allHold n = true := by
  unfold allHold holds Template.holds
  simp only [Template.unitChars_written]
  apply forall_of_chosen
  decide +kernel

variable {c : Chain}

theorem template_reads (mem : c ∈ all) (args : List Expression) :
    ∃ t, Plan.template ⟨c.code, args, c.within⟩ = .ok t ∧ t.code = c.code ∧ t.Reads c.sketch := by
  have held (n : NodeId) : c.holds n = true := List.all_eq_true.1 (allHold_eq n) c mem
  have chars : c.pieces.flatMap String.toList = c.code.toList := String.toList_join.symm
  simp only [holds, chars, Bool.and_eq_true] at held
  have free := (held 0).1
  rcases parametrized : Placeholder.parametrize 0 0 c.code.toList with e | ⟨code, placeholders⟩
  · simp [parametrized] at held
  · simp only [parametrized] at held
    refine ⟨⟨c.code, String.ofList code, placeholders, [supplierName], staticImports c.within,
      [assertjResource]⟩, ?_, rfl, .of_holds ?_ ?_⟩
    · simp only [Plan.template, Template.ofCode, parametrized]
      rfl
    · simpa using free
    · intro n
      rw [String.toList_ofList]
      exact (held n).2

/-- What the code of a chain is read as. -/
def sketchOf? (code : String) : Option Sketch := (all.find? (·.code == code)).map (·.sketch)

theorem codes_nodup : (all.map code).Nodup := by decide +kernel

theorem sketchOf?_code (mem : c ∈ all) : sketchOf? c.code = some c.sketch := by
  rw [sketchOf?]
  cases found : all.find? (·.code == c.code) with
  | none => exact absurd (List.find?_eq_none.1 found c mem) (by simp)
  | some c' =>
    have same : c'.code = c.code := by simpa using List.find?_some found
    rw [List.inj_on_of_nodup_map codes_nodup (List.mem_of_find?_eq_some found) mem same]
    rfl

variable {args : List Expression}

theorem fill_parameter {index : Nat} {e : Expression} (small : index < 4)
    (found : args[index]? = some e) : (parameter index).fill args = bare e := by
  have read : ∀ i < 4, Placeholder.parameterIndex? (Placeholder.parameterName i) = some i := by
    decide +kernel
  simp [parameter, Sketch.fill, Sketch.fillName, read index small, found, bare]

theorem fill_subject : subject.fill args = "assertThat(" ++ (parameter 0).fill args ++ ")" := by
  simp [subject, Sketch.fill, Sketch.fillAll, parameter]

theorem fill_described :
    described.fill args = subject.fill args ++ ".as(" ++ (parameter 1).fill args ++ ")" := by
  simp [described, subject, Sketch.fill, Sketch.fillAll, parameter, String.append_assoc]

theorem fill_exactly {w : Wording} {start : Sketch} {index : Nat} (tight : start.leading = "") :
    (exactly w start index).fill args =
      start.fill args ++ "." ++ w.exact ++ "(" ++ (parameter index).fill args ++ ")" := by
  simp [exactly, Sketch.fill, Sketch.fillAll, parameter, tight]

theorem fill_closely {w : Wording} {start : Sketch} {index : Nat} (tight : start.leading = "") :
    (closely w start index).fill args =
      start.fill args ++ "." ++ w.close ++ "(" ++ (parameter index).fill args ++ ", within(" ++
        (parameter (index + 1)).fill args ++ "))" := by
  have comma : ", within(" = "," ++ (" " ++ "within(") := rfl
  simp [closely, Sketch.fill, Sketch.fillAll, parameter, tight, String.append_assoc]
  rw [comma, String.append_assoc, String.append_assoc]

end Chain

namespace Conversion

variable {c : Conversion} {args : List Expression} {p : Plan}

/-- The chain for the arguments of a plan says what they stand for. -/
def Spells (c : Conversion) (args : List Expression) (p : Plan) (chain : Chain) : Prop :=
  p = ⟨chain.code, p.args, chain.within⟩ ∧ chain.sketch.isCall = true ∧
    (Roles.ofArguments? args).map (Roles.text c.exact c.close) = some (chain.sketch.fill p.args)

/-- The chains with the placeholder for a message. -/
theorem mem_ofWording {chain : Chain} (w : Wording) (message : Expression)
    (h : chain ∈ Chain.ends w
      ["assertThat(", w.operand, ").", "as(", messagePlaceholder message, ")."] Chain.described 2) :
    chain ∈ Chain.ofWording w := by
  refine List.mem_append_right _ (List.mem_flatMap.2 ⟨_, ?_, h⟩)
  unfold messagePlaceholder
  split <;> simp

theorem plan_spells (h : c.plan args = .ok p) :
    ∃ chain ∈ Chain.ofWording c.wording, c.Spells args p chain := by
  match args with
  | [expected, actual] =>
    cases h
    refine ⟨⟨_, _, _⟩, List.mem_cons_self, ?_, rfl, ?_⟩
    · simp [Chain.code, start, exactEnd, wording, String.append_assoc]
    · rw [Chain.fill_exactly rfl, Chain.fill_subject, Chain.fill_parameter (by decide) rfl,
        Chain.fill_parameter (by decide) rfl]
      simp [Roles.ofArguments?, Roles.text, wording, String.append_assoc]
  | [expected, actual, third] =>
    rw [plan] at h
    split at h
    · cases h
    split at h
    · next floating =>
      cases h
      refine ⟨⟨_, _, _⟩, List.mem_cons_of_mem _ List.mem_cons_self, ?_, rfl, ?_⟩
      · simp [Chain.code, start, closeEnd, wording, String.append_assoc]
      · rw [Chain.fill_closely rfl, Chain.fill_subject, Chain.fill_parameter (by decide) rfl,
          Chain.fill_parameter (by decide) rfl, Chain.fill_parameter (by decide) rfl]
        simp [Roles.ofArguments?, Roles.text, wording, floating, String.append_assoc]
    · next other =>
      cases h
      refine ⟨⟨_, _, _⟩, mem_ofWording _ third List.mem_cons_self, ?_, rfl, ?_⟩
      · simp [Chain.code, start, exactEnd, describe, wording, String.append_assoc]
      · rw [Chain.fill_exactly rfl, Chain.fill_described, Chain.fill_subject,
          Chain.fill_parameter (by decide) rfl, Chain.fill_parameter (by decide) rfl,
          Chain.fill_parameter (by decide) rfl]
        simp [-String.reduceAppend, Roles.ofArguments?, Roles.text, wording, other,
          String.append_assoc]
  | [expected, actual, tolerance, message] =>
    rw [plan] at h
    split at h
    · cases h
    split at h
    · cases h
    cases h
    refine ⟨⟨_, _, _⟩, mem_ofWording _ message (List.mem_cons_of_mem _ List.mem_cons_self), ?_, rfl,
      ?_⟩
    · simp [Chain.code, start, closeEnd, describe, wording, String.append_assoc]
    · rw [Chain.fill_closely rfl, Chain.fill_described, Chain.fill_subject,
        Chain.fill_parameter (by decide) rfl, Chain.fill_parameter (by decide) rfl,
        Chain.fill_parameter (by decide) rfl, Chain.fill_parameter (by decide) rfl]
      simp [-String.reduceAppend, Roles.ofArguments?, Roles.text, wording, String.append_assoc]
  | [] | [_] | _ :: _ :: _ :: _ :: _ :: _ => cases h

/-- What filling in the arguments makes of the chain that a plan spells, it makes of the plan. -/
theorem fills_plan_of (known : c.wording ∈ wordings) (h : c.plan args = .ok p) (call : Expression)
    {P : Edited Expression → Prop}
    (gives : ∀ chain ∈ Chain.all, c.Spells args p chain → ∀ e, chain.sketch.fits e = true →
      ∀ s : Session, s.cancelled = false →
        Sketch.Gives ⟨"", none⟩ { session := s } (e.editBy (substitution p.args)) P) :
    Fills (Session.Ready Chain.sketchOf?) (p.fill call) fun e =>
      ∃ out, P out ∧ e = out.value.withLeading call.leading := by
  obtain ⟨chain, mem, spells⟩ := plan_spells h
  have mem : chain ∈ Chain.all := List.mem_flatMap.2 ⟨c.wording, known, mem⟩
  obtain ⟨t, made, code, reads⟩ := Chain.template_reads mem p.args
  refine .bind (P := fun t' => t' = t) (.lift fun t' eq => ?_) fun t' eq => ?_
  · rw [spells.1, made] at eq
    exact (Except.ok.inj eq).symm
  · subst eq
    exact Template.fills_replaceExpression reads (by rw [code, Chain.sketchOf?_code mem]) call
      (gives chain mem spells)

/-- The chain in place of a call says what the arguments stand for, behind the trivia of the call.
-/
theorem fills_plan (known : c.wording ∈ wordings) (h : c.plan args = .ok p) (call : Expression) :
    Fills (Session.Ready Chain.sketchOf?) (p.fill call) fun e =>
      e.kind = "method invocation" ∧ ∃ roles, Roles.ofArguments? args = some roles ∧
        e.print = call.leading.text ++ roles.text c.exact c.close := by
  have fills : Fills (Session.Ready Chain.sketchOf?) (p.fill call) fun e =>
    ∃ out : Edited Expression,
      (out.value.kind = "method invocation" ∧ ∃ roles, Roles.ofArguments? args = some roles ∧
        bare out.value = roles.text c.exact c.close) ∧ e = out.value.withLeading call.leading := by
    refine fills_plan_of known h call fun chain _ ⟨_, isCall, spelled⟩ e fits s running => ?_
    obtain ⟨out, run, filled⟩ : Sketch.Gives ⟨"", none⟩ { session := s }
        (e.editBy (substitution p.args)) (Sketch.Filled p.args chain.sketch) :=
      Sketch.substitution_fill (by simp [running]) chain.sketch e [] fits (.inl isCall)
    obtain ⟨roles, arguments, text⟩ := Option.map_eq_some_iff.1 spelled
    exact ⟨out, run, filled.kind isCall, roles, arguments, filled.text.trans text.symm⟩
  intro s ready
  refine ⟨(fills s ready).1, fun e made => ?_⟩
  obtain ⟨out, ⟨kind, roles, arguments, text⟩, rfl⟩ := (fills s ready).2 e made
  refine ⟨?_, roles, arguments, ?_⟩
  · rw [← kind]
    cases out.value <;> rfl
  · rw [← text]
    exact out.value.print_withLeading call.leading

end Conversion

end Rule

end Retouch
