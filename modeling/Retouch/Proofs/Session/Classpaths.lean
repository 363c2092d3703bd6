import Retouch.Proofs.Template.Cache

/-!
# Class paths from the session

A session keeps what it was asked for, also the error, by a text: the names of the resources with
`+` between them. So a request is answered with what a new session makes of the first request of the
same text (`answers_eq_first`). Names that are not empty and have no `+` in them can be told from
this text, and then the session is transparent; the names of the bundled resources are such names.
Others cannot: a name with a `+` in it spells two resources, and the error for it is the answer to a
request for both (`answers_mixed`).
-/

namespace Retouch.Session

/-- The text by which a session keeps the class path of a request. -/
def requestKey (names : List String) : String := "+".intercalate names

/-- What a session answers to requests for class paths, one behind the other. -/
def answers (s : Session) : List (List String) → List (Except ClasspathError Classpath)
  | [] => []
  | names :: requests => (s.classpath names).1 :: (s.classpath names).2.answers requests

/-- The first request of the same text. -/
def firstAlike (requests : List (List String)) (names : List String) : List String :=
  (requests.find? (requestKey · == requestKey names)).getD names

/-- The session keeps the class path of the first request of each text, and no others. -/
def Answered (asked : List (List String)) (s : Session) : Prop :=
  ∀ names, s.classpaths.get? (requestKey names) =
    (asked.find? (requestKey · == requestKey names)).map Classpath.ofResources

variable {s : Session} {asked : List (List String)} {names : List String}

theorem classpath_eq (s : Session) (names : List String) : s.classpath names =
    match s.classpaths.get? (requestKey names) with
    | some made => (made, s)
    | none =>
      let made := Classpath.ofResources names
      (made, { s with classpaths := s.classpaths.set (requestKey names) made }) := rfl

theorem find?_append_singleton (other : List String) :
    (asked ++ [names]).find? (requestKey · == requestKey other) =
      (asked.find? (requestKey · == requestKey other)).or
        (if requestKey names = requestKey other then some names else none) := by
  rw [List.find?_append, List.find?_singleton]
  simp only [beq_iff_eq]

/-- One more request is answered as the first one of its text. -/
theorem Answered.classpath (h : s.Answered asked) (names : List String) :
    (s.classpath names).1 = Classpath.ofResources (firstAlike asked names) ∧
      (s.classpath names).2.Answered (asked ++ [names]) := by
  rw [classpath_eq, h names, firstAlike]
  cases first : asked.find? (requestKey · == requestKey names) with
  | some earlier =>
    refine ⟨rfl, fun other => ?_⟩
    change s.classpaths.get? (requestKey other) = _
    rw [h other, find?_append_singleton]
    by_cases same : requestKey names = requestKey other
    · rw [← same, first]
      rfl
    · rw [if_neg same, Option.or_none]
  | none =>
    refine ⟨rfl, fun other => ?_⟩
    change (s.classpaths.set (requestKey names) (Classpath.ofResources names)).get?
      (requestKey other) = _
    rw [Table.get?_set, find?_append_singleton]
    by_cases same : requestKey names = requestKey other
    · rw [if_pos same.symm, if_pos same, ← same, first]
      rfl
    · rw [if_neg (Ne.symm same), if_neg same, Option.or_none, h other]

/-- A request that was made has its first one of the same text in front of it. -/
theorem firstAlike_append (later : List (List String)) :
    firstAlike (asked ++ names :: later) names = firstAlike asked names := by
  unfold firstAlike
  have own : (requestKey names == requestKey names) = true := beq_self_eq_true _
  rw [List.find?_append, List.find?_cons, own]
  cases asked.find? (requestKey · == requestKey names) <;> rfl

theorem Answered.answers (h : s.Answered asked) (requests : List (List String)) :
    s.answers requests = requests.map fun names =>
      Classpath.ofResources (firstAlike (asked ++ requests) names) := by
  induction requests generalizing s asked with
  | nil => rfl
  | cons names requests ih =>
    obtain ⟨first, kept⟩ := h.classpath names
    rw [Session.answers, first, ih kept, List.map_cons, firstAlike_append, List.append_assoc,
      List.singleton_append]

/-- The text tells names that are not empty and have no `+` in them. -/
theorem firstAlike_of_plain {requests : List (List String)} (mem : names ∈ requests)
    (plain : ∀ names ∈ requests, ∀ name ∈ names, name ≠ "" ∧ '+' ∉ name.toList) :
      firstAlike requests names = names := by
  unfold firstAlike
  cases first : requests.find? (requestKey · == requestKey names) with
  | none => rfl
  | some earlier =>
    have same : requestKey earlier = requestKey names := by
      simpa using List.find?_some first
    exact Text.intercalate_inj rfl (plain _ (List.mem_of_find?_eq_some first)) (plain _ mem) same

/-- A session that has made no class path answers each request with what is made of the first one of
the same text. Names that are not empty and have no `+` in them are answered as if there was no
session. -/
theorem answers_eq_first (s : Session) (requests : List (List String)) :
    { s with classpaths := [] }.answers requests =
        (requests.map fun names => Classpath.ofResources (firstAlike requests names)) ∧
      ((∀ names ∈ requests, ∀ name ∈ names, name ≠ "" ∧ '+' ∉ name.toList) →
        { s with classpaths := [] }.answers requests = requests.map Classpath.ofResources) := by
  have new : Answered [] { s with classpaths := [] } := fun _ => rfl
  have first := new.answers requests
  rw [List.nil_append] at first
  refine ⟨first, fun plain => first.trans (List.map_congr_left fun names mem => ?_)⟩
  rw [firstAlike_of_plain mem plain]

/-- A selection, one that fails, and the selection once more. -/
theorem answers_eq_first_bundled :
    let requests := [["junit-4.13", "assertj-core-3.24"], ["junit-3"],
      ["junit-4.13", "assertj-core-3.24"]]
    (∀ names ∈ requests, ∀ name ∈ names, name ≠ "" ∧ '+' ∉ name.toList) ∧
      ({ classpaths := [] } : Session).answers requests = requests.map Classpath.ofResources := by
  intro requests
  have plain : ∀ names ∈ requests, ∀ name ∈ names, name ≠ "" ∧ '+' ∉ name.toList := by decide
  exact ⟨plain, (answers_eq_first {} requests).2 plain⟩

/-- A selection of bundled resources is not refused for an unknown name. -/
theorem ofResources_ne_unknownResource
    (bundled : ∀ name ∈ Classpath.selection names, (Classpath.resources.lookup name).isSome = true)
      (name : String)
    (known : List String) : Classpath.ofResources names ≠ .error (.unknownResource name known) := by
  refine bind_ne_error (exists_mapM_ok fun chosen mem => ?_) fun stubs => ?_
  · obtain ⟨own, found⟩ := Option.isSome_iff_exists.1 (bundled chosen mem)
    exact ⟨own, by rw [found]⟩
  · unfold Classpath.ofStubs
    split <;> simp

/-- The error for a name with a `+` in it is the answer to a request for the two resources that it
spells. -/
theorem answers_mixed :
    let spelled := "junit-4.13+assertj-core-3.24"
    let refused : Except ClasspathError Classpath :=
      .error (.unknownResource spelled Classpath.resourceNames)
    ({} : Session).answers [[spelled], ["junit-4.13", "assertj-core-3.24"]] = [refused, refused] ∧
      Classpath.ofResources ["junit-4.13", "assertj-core-3.24"] ≠ refused := by
  intro spelled refused
  have new : Answered [] {} := fun _ => rfl
  have first : firstAlike [[spelled], ["junit-4.13", "assertj-core-3.24"]] [spelled] = [spelled] :=
    by decide
  have second : firstAlike [[spelled], ["junit-4.13", "assertj-core-3.24"]] ["junit-4.13",
    "assertj-core-3.24"] =
      [spelled] := by decide
  have base : Classpath.resources.lookup "java-base" = some Resource.javaBase := by rfl
  have own : Classpath.ofResources [spelled] = refused := by
    have chosen : Classpath.selection [spelled] = ["java-base", spelled] := by decide
    have unknown : Classpath.resources.lookup spelled = none := by rfl
    rw [Classpath.ofResources, chosen]
    simp only [List.mapM_cons, base, unknown, bind, Except.bind, refused]
  refine ⟨by rw [new.answers, List.nil_append, List.map_cons, List.map_cons, first, second, own,
    List.map_nil], ?_⟩
  exact ofResources_ne_unknownResource (by decide) _ _

end Retouch.Session
