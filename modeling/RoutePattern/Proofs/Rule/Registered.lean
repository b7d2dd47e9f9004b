import RoutePattern.Proofs.Path.Openings
import RoutePattern.Proofs.Rule.Making

/-! Which kinds have to be registered for a pattern to be compiled, and which of those that are not is
reported. Where values are held to choices, no kind is looked for. -/
namespace RoutePattern

/-- Whether the values of a param are held to the kind of a name. Choices go before a kind. -/
def Param.HeldTo (q : Param) (name : String) : Prop :=
  q.choices = [] ∧ q.constraint = .kind name

/-- Whether the values of a query rule are held to the kind of a name. -/
def QueryRule.HeldTo (rule : QueryRule) (name : String) : Prop :=
  rule.choices = [] ∧ rule.constraint = .kind name

/-- The kind that the values of a param are held to, if it is not registered. -/
def Param.missing? (kinds : Kinds) (q : Param) : Option String :=
  if q.choices.isEmpty then q.constraint.kind?.filter (· ∉ kinds) else none

/-- What maps results keeps errors. -/
theorem map_eq_error_iff {ε α β : Type} {f : α → β} {x : Except ε α} {e : ε} :
    x.map f = .error e ↔ x = .error e := by
  cases x with
  | error e' => exact ⟨fun h => congrArg Except.error (Except.error.inj h), fun h => h ▸ rfl⟩
  | ok a => exact ⟨nofun, nofun⟩

section Kinds

variable {kinds : Kinds} {name : String} {e : Error}

theorem Kinds.resolve_eq_error_iff :
    kinds.resolve name = .error e ↔ name ∉ kinds ∧ e = .unknownKind name := by
  rw [Std.ExtTreeMap.mem_iff_isSome_getElem?, resolve]
  cases kinds[name]? with
  | none =>
    rw [Except.error.injEq, eq_comm]
    exact (and_iff_right Bool.false_ne_true).symm
  | some k =>
    constructor
    · rintro ⟨⟩
    · exact fun h => absurd rfl h.1

theorem Param.missing?_eq_some_iff {q : Param} :
    q.missing? kinds = some name ↔ q.HeldTo name ∧ name ∉ kinds := by
  obtain ⟨_, constraint, _, choices, _⟩ := q
  rw [missing?, HeldTo]
  cases choices with
  | cons choice choices => exact ⟨nofun, nofun⟩
  | nil =>
    cases constraint with
    | any => exact ⟨nofun, nofun⟩
    | regex text => exact ⟨nofun, nofun⟩
    | kind own =>
      rw [List.isEmpty_nil, if_pos rfl, Constraint.kind?, Option.filter_eq_some_iff,
        Option.some.injEq, decide_eq_true_eq, Constraint.kind.injEq]
      exact ⟨fun h => ⟨⟨rfl, h.1⟩, h.2⟩, fun h => ⟨h.1.2, h.2⟩⟩

end Kinds

section Path

variable {kinds : Kinds} {fold : Bool} {e : Error}

/-- A param has no regex only for a kind that is missing. -/
theorem Param.regex_eq_error_iff {q : Param} :
    q.regex kinds fold = .error e ↔ ∃ name, q.missing? kinds = some name ∧ e = .unknownKind name := by
  obtain ⟨_, constraint, _, choices, _⟩ := q
  simp only [missing?_eq_some_iff, HeldTo, regex]
  cases choices with
  | cons choice choices => simp
  | nil =>
    cases constraint with
    | any => simp
    | regex text => simp
    | kind name =>
      simp only [List.isEmpty_nil, if_true, map_eq_error_iff, Kinds.resolve_eq_error_iff,
        Constraint.kind.injEq, true_and]
      constructor
      · exact fun h => ⟨name, ⟨rfl, h.1⟩, h.2⟩
      · intro h
        obtain ⟨_, ⟨rfl, hmissing⟩, he⟩ := h
        exact ⟨hmissing, he⟩

/-- The regexes of two parts in a row fail with the error of the first one that has none. -/
theorem Node.regexOf_cons_eq_error_iff {node : Node} {rest : List Node} :
    Node.regexOf kinds fold (node :: rest) = .error e ↔ node.regex kinds fold = .error e ∨
      (∃ first, node.regex kinds fold = .ok first) ∧ Node.regexOf kinds fold rest = .error e := by
  rw [regexOf]
  cases node.regex kinds fold with
  | error e' => exact ⟨Or.inl, fun h => h.elim id fun h => nomatch h.1⟩
  | ok first =>
    cases Node.regexOf kinds fold rest with
    | error e' => exact ⟨fun h => Or.inr ⟨⟨first, rfl⟩, h⟩, fun h => h.elim nofun And.right⟩
    | ok more => exact ⟨nofun, fun h => h.elim nofun fun h => nomatch h.2⟩

mutual
/-- A part of a path has no regex only for the first kind of its params that is missing. -/
theorem Node.regex_eq_error_iff (node : Node) {e : Error} : node.regex kinds fold = .error e ↔
    ∃ name, node.params.findSome? (Param.missing? kinds) = some name ∧ e = .unknownKind name := by
  cases node with
  | literal text => exact ⟨nofun, nofun⟩
  | delimiter => exact ⟨nofun, nofun⟩
  | param q =>
    rw [params, List.findSome?_singleton, regex, map_eq_error_iff]
    exact Param.regex_eq_error_iff
  | option children =>
    rw [params, ← Node.regexOf_eq_error_iff children, regex, map_eq_error_iff]
termination_by structural node

/-- A path has no regex only for the first kind of its params that is missing. -/
theorem Node.regexOf_eq_error_iff (nodes : List Node) {e : Error} :
    Node.regexOf kinds fold nodes = .error e ↔ ∃ name,
      (Node.paramsOf nodes).findSome? (Param.missing? kinds) = some name ∧ e = .unknownKind name := by
  cases nodes with
  | nil => exact ⟨nofun, nofun⟩
  | cons node rest =>
    rw [regexOf_cons_eq_error_iff, Node.regex_eq_error_iff node, Node.regexOf_eq_error_iff rest,
      paramsOf, List.findSome?_append]
    cases hnode : node.params.findSome? (Param.missing? kinds) with
    | some name =>
      -- a part that fails hides what is missing behind it
      have hfails : node.regex kinds fold = .error (.unknownKind name) :=
        (Node.regex_eq_error_iff node).mpr ⟨name, hnode, rfl⟩
      rw [hfails, Option.some_or]
      exact ⟨fun h => h.elim id fun h => (nomatch h.1), Or.inl⟩
    | none =>
      rw [Option.none_or]
      refine ⟨fun h => h.elim nofun And.right, fun h => Or.inr ⟨?_, h⟩⟩
      cases hfirst : node.regex kinds fold with
      | ok first => exact ⟨first, rfl⟩
      | error e' =>
        obtain ⟨name, hname, -⟩ := (Node.regex_eq_error_iff node).mp hfirst
        rw [hnode] at hname
        cases hname
termination_by structural nodes
end

namespace Pattern

variable {p : Pattern} {options : Options} {name : String}

/-- There is a text for the regex of a path unless a kind is missing. -/
theorem regexText_eq_error_iff : p.regexText kinds options = .error e ↔
    ∃ name, p.params.findSome? (Param.missing? kinds) = some name ∧ e = .unknownKind name := by
  rw [regexText, map_eq_error_iff]
  exact Node.regexOf_eq_error_iff p.path

/-- Of the errors of a path only that of its text is about a kind. -/
theorem pathRegex_eq_unknownKind_iff : p.pathRegex kinds options = .error (.unknownKind name) ↔
    p.params.findSome? (Param.missing? kinds) = some name := by
  have htext : p.regexText kinds options = .error (.unknownKind name) ↔
      p.params.findSome? (Param.missing? kinds) = some name := by
    rw [regexText_eq_error_iff]
    simp only [Error.unknownKind.injEq, exists_eq_right']
  rw [← htext, pathRegex]
  cases p.regexText kinds options with
  | error e' => exact ⟨fun h => congrArg Except.error (Except.error.inj h), fun h => h ▸ rfl⟩
  | ok text =>
    constructor
    · intro h
      dsimp only [bind, Except.bind] at h
      split at h
      · cases h
      · split at h <;> cases h
    · rintro ⟨⟩

end Pattern

end Path

section Query

variable {rule : QueryRule} {kinds : Kinds} {fold : Bool} {name : String}

theorem QueryRule.body_of_heldTo (h : rule.HeldTo name) :
    QuerySlot.body rule kinds = (kinds.resolve name).map fun k => some k.fragment.toList := by
  rw [QuerySlot.body, h.1, h.2]
  rfl

/-- A rule whose values are held to a kind is compiled only if the kind is registered. -/
theorem QueryRule.HeldTo.mem {slot : QuerySlot} (h : rule.HeldTo name)
    (hslot : QuerySlot.make rule kinds fold = .ok slot) : name ∈ kinds := by
  by_contra hmissing
  rw [QuerySlot.make, body_of_heldTo h, Kinds.resolve_eq_error_iff.mpr ⟨hmissing, rfl⟩] at hslot
  cases hslot

/-- Of the errors of a rule only that of the kind it is held to is about a kind. -/
theorem QueryRule.heldTo_of_make (h : QuerySlot.make rule kinds fold = .error (.unknownKind name)) :
    rule.HeldTo name ∧ name ∉ kinds := by
  rw [QuerySlot.make] at h
  cases hbody : QuerySlot.body rule kinds with
  | ok found =>
    rw [hbody] at h
    cases found with
    | none => cases h
    | some text =>
      dsimp only [bind, Except.bind] at h
      split at h <;> cases h
  | error e =>
    rw [hbody] at h
    obtain rfl : e = .unknownKind name := Except.error.inj h
    rw [QuerySlot.body] at hbody
    split at hbody
    · next hchoices =>
      split at hbody
      · cases hbody
      · next own hown =>
        cases hkind : kinds.resolve own with
        | ok k =>
          rw [hkind] at hbody
          cases hbody
        | error e =>
          rw [hkind] at hbody
          obtain rfl : e = .unknownKind name := Except.error.inj hbody
          obtain ⟨hmissing, hname⟩ := Kinds.resolve_eq_error_iff.mp hkind
          obtain rfl : name = own := Error.unknownKind.inj hname
          exact ⟨⟨List.isEmpty_iff.mp hchoices, hown⟩, hmissing⟩
      · cases hbody
    · cases hbody

end Query

/-- An error of a traversal is that of an element. -/
theorem exists_of_mapM_eq_error {ε α β : Type} {f : α → Except ε β} {l : List α} {e : ε}
    (h : l.mapM f = .error e) : ∃ a ∈ l, f a = .error e := by
  induction l with
  | nil => cases h
  | cons a l ih =>
    rw [List.mapM_cons] at h
    cases ha : f a with
    | error e' =>
      rw [ha] at h
      obtain rfl : e' = e := Except.error.inj h
      exact ⟨a, List.mem_cons_self, ha⟩
    | ok b =>
      rw [ha] at h
      cases hl : l.mapM f with
      | ok rest =>
        rw [hl] at h
        cases h
      | error e' =>
        rw [hl] at h
        obtain rfl : e' = e := Except.error.inj h
        obtain ⟨a', ha', herror⟩ := ih hl
        exact ⟨a', List.mem_cons_of_mem a ha', herror⟩

namespace Pattern

variable {source : String} {kinds : Kinds} {options : Options} {p : Pattern} {name : String}

/-- Nothing is wrong with the kinds of a text that is no pattern. -/
theorem read_ne_unknownKind : read source ≠ .error (.unknownKind name) := by
  rw [read]
  split <;> nofun

/-- The values of a pattern that is compiled are held to kinds that are registered. -/
theorem mem_of_compile_eq_ok {compiled : Compiled} (h : p.compile kinds options = .ok compiled) :
    (∀ q ∈ p.params, ∀ name, q.HeldTo name → name ∈ kinds) ∧
      ∀ rule ∈ p.query, ∀ name, rule.HeldTo name → name ∈ kinds := by
  obtain ⟨hpath, hslots, -⟩ := compile_eq_ok h
  refine ⟨fun q hq name hname => ?_, fun rule hrule name hname => ?_⟩
  · -- the first kind that is missing would be reported
    by_contra hmissing
    have hsome : (p.params.findSome? (Param.missing? kinds)).isSome = true :=
      List.findSome?_isSome_iff.mpr
        ⟨q, hq, Option.isSome_of_mem (Param.missing?_eq_some_iff.mpr ⟨hname, hmissing⟩)⟩
    obtain ⟨first, hfirst⟩ := Option.isSome_iff_exists.mp hsome
    rw [pathRegex_eq_unknownKind_iff.mpr hfirst] at hpath
    cases hpath
  · obtain ⟨i, hi, rfl⟩ := List.mem_iff_getElem.mp hrule
    exact hname.mem (hslots.get hi (hslots.length_eq ▸ hi))

/-- The first param that is held to a kind which is missing decides on what is missing. -/
theorem findSome?_missing {before after : List Param} {q : Param}
    (hbefore : ∀ q' ∈ before, ∀ name', q'.HeldTo name' → name' ∈ kinds) (hname : q.HeldTo name)
    (hmissing : name ∉ kinds) :
    (before ++ q :: after).findSome? (Param.missing? kinds) = some name := by
  have hnone : before.findSome? (Param.missing? kinds) = none := by
    rw [List.findSome?_eq_none_iff]
    intro q' hq'
    rw [Option.eq_none_iff_forall_ne_some]
    intro name' hname'
    obtain ⟨hheld, hnot⟩ := Param.missing?_eq_some_iff.mp hname'
    exact hnot (hbefore q' hq' name' hheld)
  have hq : q.missing? kinds = some name := Param.missing?_eq_some_iff.mpr ⟨hname, hmissing⟩
  rw [List.findSome?_append, hnone, Option.none_or, List.findSome?_cons, hq]

/-- A kind that is reported is one that something is held to, and is missing. -/
theorem heldTo_of_compile_eq_error (h : p.compile kinds options = .error (.unknownKind name)) :
    name ∉ kinds ∧ ((∃ q ∈ p.params, q.HeldTo name) ∨ ∃ rule ∈ p.query, rule.HeldTo name) := by
  rw [compile] at h
  cases hpath : p.pathRegex kinds options with
  | error e =>
    rw [hpath] at h
    obtain rfl : e = .unknownKind name := Except.error.inj h
    obtain ⟨q, hq, hmissing⟩ :=
      List.exists_of_findSome?_eq_some (pathRegex_eq_unknownKind_iff.mp hpath)
    obtain ⟨hheld, hnot⟩ := Param.missing?_eq_some_iff.mp hmissing
    exact ⟨hnot, Or.inl ⟨q, hq, hheld⟩⟩
  | ok path =>
    cases hslots : p.query.mapM fun rule => QuerySlot.make rule kinds options.ignoreCase with
    | ok slots =>
      simp only [bind, Except.bind, hpath, hslots] at h
      cases h
    | error e =>
      simp only [bind, Except.bind, hpath, hslots] at h
      obtain rfl : e = .unknownKind name := Except.error.inj h
      obtain ⟨rule, hrule, hmake⟩ := exists_of_mapM_eq_error hslots
      obtain ⟨hheld, hnot⟩ := QueryRule.heldTo_of_make hmake
      exact ⟨hnot, Or.inr ⟨rule, hrule, hheld⟩⟩

/-- A pattern is compiled only if all the kinds that its values are held to are registered. A kind of
the path that is not is reported, and it is the first one, whatever else is wrong; no error names a kind
that is registered or that nothing is held to. -/
theorem readAndCompile_kinds (source : String) (kinds : Kinds) (options : Options) :
    (∀ p compiled, readAndCompile source kinds options = .ok (p, compiled) →
      (∀ q ∈ p.params, ∀ name, q.HeldTo name → name ∈ kinds) ∧
      ∀ rule ∈ p.query, ∀ name, rule.HeldTo name → name ∈ kinds) ∧
    (∀ p before q after name, read source = .ok p → p.params = before ++ q :: after →
      (∀ q' ∈ before, ∀ name', q'.HeldTo name' → name' ∈ kinds) → q.HeldTo name → name ∉ kinds →
      readAndCompile source kinds options = .error (.unknownKind name)) ∧
    ∀ name, readAndCompile source kinds options = .error (.unknownKind name) → name ∉ kinds ∧
      ∃ p, read source = .ok p ∧
        ((∃ q ∈ p.params, q.HeldTo name) ∨ ∃ rule ∈ p.query, rule.HeldTo name) := by
  refine ⟨?_, ?_, ?_⟩
  · intro p compiled h
    exact mem_of_compile_eq_ok (read_of_readAndCompile h).2
  · intro p before q after name hread hparams hbefore hname hmissing
    have hfirst : p.params.findSome? (Param.missing? kinds) = some name := by
      rw [hparams]
      exact findSome?_missing hbefore hname hmissing
    rw [readAndCompile_of_read hread, compile, pathRegex_eq_unknownKind_iff.mpr hfirst]
    rfl
  · intro name h
    cases hread : read source with
    | error e =>
      rw [readAndCompile, hread] at h
      obtain rfl : e = .unknownKind name := Except.error.inj h
      exact absurd hread read_ne_unknownKind
    | ok p =>
      rw [readAndCompile_of_read hread, map_eq_error_iff] at h
      obtain ⟨hmissing, hheld⟩ := heldTo_of_compile_eq_error h
      exact ⟨hmissing, p, rfl, hheld⟩

/-- With one kind registered, a pattern that holds values to it is compiled; of two others the one in the
group is reported, which comes first. -/
theorem readAndCompile_word :
    ∃ k, Kind.make "Word" "[a-z]+" = .ok k ∧
      (∃ p compiled, readAndCompile "/<Word:a>?Word:d" ((∅ : Kinds).insert "Word" k) {} =
        .ok (p, compiled) ∧ "Word" ∈ (∅ : Kinds).insert "Word" k) ∧
      readAndCompile "/<Word:a>(/<Nope:b>)/<None:c>" ((∅ : Kinds).insert "Word" k) {} =
        .error (.unknownKind "Nope") ∧ "Nope" ∉ (∅ : Kinds).insert "Word" k := by
  let a : Param := { name := "a", constraint := .kind "Word" }
  let b : Param := { name := "b", constraint := .kind "Nope" }
  let c : Param := { name := "c", constraint := .kind "None" }
  have hfound : ((Kind.make "Word" "[a-z]+").toOption.map fun k =>
      (readAndCompile "/<Word:a>?Word:d" ((∅ : Kinds).insert "Word" k) {}).toOption.map
        fun made => made.1.params) = some (some [a]) := by decide +kernel
  have hread : read "/<Word:a>(/<Nope:b>)/<None:c>" =
      .ok ⟨"/<Word:a>(/<Nope:b>)/<None:c>",
        [.delimiter, .param a, .option [.delimiter, .param b], .delimiter, .param c], []⟩ := rfl
  obtain ⟨k, hk, hfound⟩ := Option.map_eq_some_iff.mp hfound
  obtain ⟨⟨p, compiled⟩, hmade, hparams⟩ := Option.map_eq_some_iff.mp hfound
  have hmade := eq_ok_of_toOption hmade
  have hword : "Word" ∈ (∅ : Kinds).insert "Word" k := by
    obtain ⟨hpath, -⟩ := (readAndCompile_kinds _ _ _).1 p compiled hmade
    rw [show p.params = [a] from hparams, List.forall_mem_singleton] at hpath
    exact hpath "Word" ⟨rfl, rfl⟩
  have hnope : "Nope" ∉ (∅ : Kinds).insert "Word" k := by
    rw [Std.ExtTreeMap.mem_insert]
    rintro (h | h)
    · exact absurd h (by decide)
    · exact Std.ExtTreeMap.not_mem_empty h
  have herror : readAndCompile "/<Word:a>(/<Nope:b>)/<None:c>" ((∅ : Kinds).insert "Word" k) {} =
      .error (.unknownKind "Nope") := by
    refine (readAndCompile_kinds _ _ _).2.1 _ [a] b [c] "Nope" hread rfl ?_ ⟨rfl, rfl⟩ hnope
    rw [List.forall_mem_singleton]
    intro name hname
    obtain rfl : "Word" = name := Constraint.kind.inj hname.2
    exact hword
  obtain ⟨hmissing, -⟩ := (readAndCompile_kinds _ _ _).2.2 "Nope" herror
  exact ⟨k, eq_ok_of_toOption hk, ⟨p, compiled, hmade, hword⟩, herror, hmissing⟩

/-- A kind beside choices is not looked for, in the path or in the query. -/
theorem readAndCompile_choices :
    "Nope" ∉ (∅ : Kinds) ∧
    (∃ p compiled, readAndCompile "/<Nope:x=a,b>" ∅ {} = .ok (p, compiled) ∧
      p.params.map (·.constraint) = [.kind "Nope"]) ∧
    ∃ p compiled, readAndCompile "/?Nope:x=a,b" ∅ {} = .ok (p, compiled) ∧
      p.query.map (·.constraint) = [.kind "Nope"] := by
  have hpath : ((readAndCompile "/<Nope:x=a,b>" ∅ {}).toOption.map fun made =>
      made.1.params.map (·.constraint)) = some [.kind "Nope"] := by decide +kernel
  have hquery : ((readAndCompile "/?Nope:x=a,b" ∅ {}).toOption.map fun made =>
      made.1.query.map (·.constraint)) = some [.kind "Nope"] := by decide +kernel
  refine ⟨Std.ExtTreeMap.not_mem_empty, ?_, ?_⟩
  · obtain ⟨made, hmade, hparams⟩ := Option.map_eq_some_iff.mp hpath
    exact ⟨made.1, made.2, eq_ok_of_toOption hmade, hparams⟩
  · obtain ⟨made, hmade, hrules⟩ := Option.map_eq_some_iff.mp hquery
    exact ⟨made.1, made.2, eq_ok_of_toOption hmade, hrules⟩

end Pattern

end RoutePattern
