import RoutePattern.Proofs.Router.Representation

/-! What an addition that fails leaves behind: the router as it was, but for the number that a rule
without a name has used up. -/
namespace RoutePattern.Router

variable {α : Type} {r : Router α} {n : Nat}

/-- What a router can be asked to do: to change, or to look something up. -/
inductive Request (α : Type)
  | change (c : Call α)
  | find (verb url : String) (after : Option String)
  | matching (verb url : String)
  | build (name : String) (args : Bindings)
  | rule (name : String)

inductive Answer (α : Type)
  | added (result : Except Error (Rule α))
  | registered (result : Except Error Unit)
  | found (outcome : Lookup α)
  | matched (found : List (Rule α × RuleMatch))
  | built (url : Option String)
  | named (rule : Option (Rule α))

/-- Whether a request is not one for a rule that has yet to be given a name. -/
def Request.Named : Request α → Prop
  | .change (.addRule _ data) => data.name.isSome = true
  | _ => True

/-- The router behind a request. -/
def serve (r : Router α) : Request α → Router α
  | .change c => r.call c
  | _ => r

def answer (r : Router α) : Request α → Answer α
  | .change (.addRule source data) => .added (r.addRule source data).2
  | .change (.registerKind name fragment) =>
    .registered ((r.registerKind name fragment).map fun _ => ())
  | .find verb url after => .found (r.find verb url after)
  | .matching verb url => .matched (r.matching verb url)
  | .build name args => .built (r.build? name args)
  | .rule name => .named (r.rule? name)

/-- The answers to requests that are made one after the other. -/
def answers : Router α → List (Request α) → List (Answer α)
  | _, [] => []
  | r, q :: requests => r.answer q :: answers (r.serve q) requests

section Renumbered

/-- The router with another number for the next rule without a name. -/
def renumbered (r : Router α) (n : Nat) : Router α := { r with nextId := n }

theorem place_renumbered (rule : Rule α) :
    (r.renumbered n).place rule = (r.place rule).renumbered n := by
  have hindex : (r.renumbered n).index = r.index := rfl
  rw [place, place, hindex]
  cases r.index[rule.name]? with
  | none => rfl
  | some slot => rfl

section Named

variable {source : String} {data : RuleData α}

theorem nameRule_of_named (h : data.name.isSome = true) : r.nameRule data = (data, r) := by
  obtain ⟨name, hname⟩ := Option.isSome_iff_exists.mp h
  rw [nameRule, hname]

theorem addRule_of_make_ok {rule : Rule α} (h : data.name.isSome = true)
    (hm : Rule.make source data r.kinds = .ok rule) :
    r.addRule source data = (r.place rule, .ok rule) := by
  rw [addRule, nameRule_of_named h]
  simp only [hm]

theorem addRule_of_make_error {e : Error} (h : data.name.isSome = true)
    (hm : Rule.make source data r.kinds = .error e) : r.addRule source data = (r, .error e) := by
  rw [addRule, nameRule_of_named h]
  simp only [hm]

theorem addRule_renumbered (h : data.name.isSome = true) :
    (r.renumbered n).addRule source data =
      ((r.addRule source data).1.renumbered n, (r.addRule source data).2) := by
  cases hm : Rule.make source data r.kinds with
  | error e =>
    have hm' : Rule.make source data (r.renumbered n).kinds = .error e := hm
    rw [addRule_of_make_error h hm, addRule_of_make_error h hm']
  | ok rule =>
    have hm' : Rule.make source data (r.renumbered n).kinds = .ok rule := hm
    rw [addRule_of_make_ok h hm, addRule_of_make_ok h hm', place_renumbered]

end Named

theorem registerKind_renumbered (name fragment : String) :
    (r.renumbered n).registerKind name fragment =
      (r.registerKind name fragment).map (·.renumbered n) := by
  have hkinds : (r.renumbered n).kinds = r.kinds := rfl
  have hrules : (r.renumbered n).rules = r.rules := rfl
  rw [registerKind, registerKind, hkinds, hrules]
  cases r.kinds.register name fragment with
  | error e => rfl
  | ok kinds =>
    simp only [bind, Except.bind]
    cases r.rules.mapM (·.recompile kinds) with
    | error e => rfl
    | ok rules => rfl

theorem call_renumbered {c : Call α} (h : (Request.change c).Named) :
    (r.renumbered n).call c = (r.call c).renumbered n := by
  cases c with
  | addRule source data => rw [call, call, addRule_renumbered h]
  | registerKind name fragment =>
    rw [call, call, registerKind_renumbered]
    cases r.registerKind name fragment with
    | error e => rfl
    | ok r' => rfl

theorem nextAll_renumbered (verb url : String) (fuel : Nat) (p : Progress) :
    (r.renumbered n).nextAll verb url fuel p = r.nextAll verb url fuel p := by
  induction fuel generalizing p with
  | zero => rfl
  | succ fuel ih =>
    have hnext : (r.renumbered n).next verb url p = r.next verb url p := rfl
    rw [nextAll, nextAll, hnext]
    cases r.next verb url p with
    | mk found p' =>
      cases found with
      | none => rfl
      | some found => simp only [ih]

/-- The number is looked at only where a name is to be given. -/
theorem answer_renumbered {q : Request α} (h : q.Named) :
    (r.renumbered n).answer q = r.answer q := by
  cases q with
  | change c =>
    cases c with
    | addRule source data => rw [answer, answer, addRule_renumbered h]
    | registerKind name fragment =>
      rw [answer, answer, registerKind_renumbered]
      cases r.registerKind name fragment with
      | error e => rfl
      | ok r' => rfl
  | matching verb url => exact congrArg Answer.matched (nextAll_renumbered verb url _ _)
  | _ => rfl

theorem serve_renumbered {q : Request α} (h : q.Named) :
    (r.renumbered n).serve q = (r.serve q).renumbered n := by
  cases q with
  | change c => exact call_renumbered h
  | _ => rfl

theorem answers_renumbered {requests : List (Request α)} (h : ∀ q ∈ requests, q.Named) :
    (r.renumbered n).answers requests = r.answers requests := by
  induction requests generalizing r with
  | nil => rfl
  | cons q requests ih =>
    obtain ⟨hq, hrequests⟩ := List.forall_mem_cons.mp h
    rw [answers, answers, answer_renumbered hq, serve_renumbered hq, ih hrequests]

end Renumbered

section Failure

variable {source : String} {data : RuleData α} {e : Error}

/-- The name that is given comes from a number that is not used up, and the next number is behind
it. -/
theorem exists_freshName (r : Router α) (fuel id : Nat) :
    ∃ k, id ≤ k ∧ r.freshName fuel id = (s!"rule_{k}", k + 1) := by
  induction fuel generalizing id with
  | zero => exact ⟨id, Nat.le_refl id, rfl⟩
  | succ fuel ih =>
    rw [freshName]
    split
    · obtain ⟨k, hk, hname⟩ := ih (id + 1)
      exact ⟨k, by omega, hname⟩
    · exact ⟨id, Nat.le_refl id, rfl⟩

theorem addRule_eq_of_error (h : (r.addRule source data).2 = .error e) :
    (r.addRule source data).1 = (r.nameRule data).2 := by
  rw [addRule] at h ⊢
  cases hm : Rule.make source (r.nameRule data).1 (r.nameRule data).2.kinds with
  | error e' => simp only [hm]
  | ok rule =>
    simp only [hm] at h
    cases h

/-- An addition that fails leaves a router as it was if the rule has a name, so that whatever comes
later is answered as if it had not been tried. A rule without a name uses up the number of the name
that it would have been given, and nothing else: whatever comes later is answered the same but for
rules without a name. -/
theorem addRule_error_unchanged (h : (r.addRule source data).2 = .error e) :
    (data.name.isSome = true → (r.addRule source data).1 = r ∧
      ∀ requests, (r.addRule source data).1.answers requests = r.answers requests) ∧
    (data.name = none → ∃ k, r.nextId ≤ k ∧ (r.nameRule data).1.name = some s!"rule_{k}" ∧
      (r.addRule source data).1 = { r with nextId := k + 1 }) ∧
    ∀ requests : List (Request α), (∀ q ∈ requests, q.Named) →
      (r.addRule source data).1.answers requests = r.answers requests := by
  rw [addRule_eq_of_error h]
  cases hname : data.name with
  | some name =>
    rw [nameRule_of_named (Option.isSome_of_eq_some hname)]
    exact ⟨fun _ => ⟨rfl, fun _ => rfl⟩, fun hnone => absurd hnone (Option.some_ne_none name),
      fun _ _ => rfl⟩
  | none =>
    -- the name is drawn before the text is read, and is not handed back
    obtain ⟨k, hk, hfresh⟩ := exists_freshName r r.rules.length r.nextId
    have hnamed : r.nameRule data =
        ({ data with name := some s!"rule_{k}" }, r.renumbered (k + 1)) := by
      rw [nameRule, hname]
      simp only [hfresh]
      rfl
    rw [hnamed]
    exact ⟨fun hsome => absurd hsome Bool.false_ne_true, fun _ => ⟨k, hk, rfl, rfl⟩,
      fun _ hrequests => answers_renumbered hrequests⟩

theorem addRule_unbalanced_unchanged :
    let r : Router Unit := run ∅ [.addRule "/a" { name := some "a", payload := () }]
    let data : RuleData Unit := { name := some "a", payload := () }
    (r.addRule "/(" data).2 = .error (.malformed .unbalancedGroup "/(" 1) ∧
      (r.addRule "/(" data).1 = r := by
  intro r data
  have herror : (r.addRule "/(" data).2 = .error (.malformed .unbalancedGroup "/(" 1) := rfl
  exact ⟨herror, ((addRule_error_unchanged herror).1 rfl).1⟩

/-- A rule without a name that fails changes the names of those that come later. -/
theorem addRule_error_renumbers :
    let r : Router Unit := {}
    let data : RuleData Unit := { payload := () }
    (r.addRule "/(" data).2 = .error (.malformed .unbalancedGroup "/(" 1) ∧
      (r.addRule "/(" data).1.nextId ≠ r.nextId ∧
      (r.addRule "/a" data).2.toOption.map (·.name) = some "rule_0" ∧
      ((r.addRule "/(" data).1.addRule "/a" data).2.toOption.map (·.name) = some "rule_1" := by
  intro r data
  refine ⟨rfl, by decide, ?_, ?_⟩
  · decide +kernel
  · decide +kernel

end Failure

end RoutePattern.Router
