import RoutePattern.Proofs.Path.Anchors
import RoutePattern.Proofs.Path.Cut

/-! Where the regex for a path has the parentheses of the params, and what stands between them. -/
namespace RoutePattern

mutual
/-- The params of a part of a path, each with the text in front of its parenthesis in a regex that begins
with some text and goes on with the part. -/
def Node.openings (kinds : Kinds) (fold : Bool) (before : List Char) :
    Node → List (List Char × Param)
  | .literal _ | .delimiter => []
  | .param p => [(before, p)]
  | .option children => Node.openingsOf kinds fold (before ++ "(?:".toList) children
termination_by structural node => node

/-- The params of a path, each with the text in front of its parenthesis. -/
def Node.openingsOf (kinds : Kinds) (fold : Bool) (before : List Char) :
    List Node → List (List Char × Param)
  | [] => []
  | node :: rest =>
    node.openings kinds fold before ++
      Node.openingsOf kinds fold (before ++ (node.regex kinds fold).toOption.getD []) rest
termination_by structural nodes => nodes
end

/-- The params of a pattern, each with the text in front of its parenthesis in the regex of the path. -/
def Pattern.openings (p : Pattern) (kinds : Kinds) (options : Options) : List (List Char × Param) :=
  Node.openingsOf kinds options.ignoreCase (frontText options) p.path

section Openings

variable {kinds : Kinds} {fold : Bool} {before text : List Char} {b : List Char × Param}

mutual
theorem Node.map_openings (node : Node) (before : List Char) :
    (node.openings kinds fold before).map Prod.snd = node.params := by
  cases node with
  | literal text => rfl
  | delimiter => rfl
  | param p => rfl
  | option children => exact Node.map_openingsOf children _
termination_by structural node

theorem Node.map_openingsOf (nodes : List Node) (before : List Char) :
    (Node.openingsOf kinds fold before nodes).map Prod.snd = Node.paramsOf nodes := by
  cases nodes with
  | nil => rfl
  | cons node rest =>
    rw [openingsOf, List.map_append, Node.map_openings node, Node.map_openingsOf rest, paramsOf_cons]
termination_by structural nodes
end

theorem Node.regex_option_eq_ok {children : List Node} (h : (Node.option children).regex kinds fold =
    .ok text) : ∃ body, Node.regexOf kinds fold children = .ok body ∧
      text = "(?:".toList ++ body ++ [')', '?'] := by
  rw [regex] at h
  cases hbody : Node.regexOf kinds fold children with
  | error e =>
    rw [hbody] at h
    cases h
  | ok body =>
    rw [hbody] at h
    exact ⟨body, rfl, (Except.ok.inj h).symm⟩

theorem Node.regex_param_eq_ok {p : Param} (h : (Node.param p).regex kinds fold = .ok text) :
    ∃ body, p.regex kinds fold = .ok body ∧ text = '(' :: body ++ [')'] := by
  rw [regex] at h
  cases hbody : p.regex kinds fold with
  | error e =>
    rw [hbody] at h
    cases h
  | ok body =>
    rw [hbody] at h
    exact ⟨body, rfl, (Except.ok.inj h).symm⟩

theorem Node.regexOf_cons_eq_ok {node : Node} {rest : List Node}
    (h : Node.regexOf kinds fold (node :: rest) = .ok text) : ∃ first more,
      node.regex kinds fold = .ok first ∧ Node.regexOf kinds fold rest = .ok more ∧
        text = first ++ more := by
  rw [regexOf] at h
  cases hfirst : node.regex kinds fold with
  | error e =>
    rw [hfirst] at h
    cases h
  | ok first =>
    cases hmore : Node.regexOf kinds fold rest with
    | error e =>
      rw [hfirst, hmore] at h
      cases h
    | ok more =>
      rw [hfirst, hmore] at h
      exact ⟨first, more, rfl, rfl, (Except.ok.inj h).symm⟩

mutual
/-- Each param is put into the regex behind the text in front of it. -/
theorem Node.exists_body (node : Node) (before : List Char) {text : List Char}
    (htext : node.regex kinds fold = .ok text) (hb : b ∈ node.openings kinds fold before) :
    ∃ body, b.2.regex kinds fold = .ok body ∧ b.1 ++ '(' :: body ++ [')'] <+: before ++ text := by
  cases node with
  | literal text => cases hb
  | delimiter => cases hb
  | param p =>
    obtain rfl := List.mem_singleton.mp hb
    obtain ⟨body, hbody, rfl⟩ := regex_param_eq_ok htext
    exact ⟨body, hbody, by rw [List.append_assoc]⟩
  | option children =>
    obtain ⟨inner, hinner, rfl⟩ := regex_option_eq_ok htext
    obtain ⟨body, hbody, hp⟩ := Node.exists_bodyOf children _ hinner hb
    refine ⟨body, hbody, hp.trans ?_⟩
    rw [← List.append_assoc, ← List.append_assoc]
    exact List.prefix_append _ _
termination_by structural node

/-- Each param is put into the regex behind the text in front of it. -/
theorem Node.exists_bodyOf (nodes : List Node) (before : List Char) {text : List Char}
    (htext : Node.regexOf kinds fold nodes = .ok text)
    (hb : b ∈ Node.openingsOf kinds fold before nodes) :
    ∃ body, b.2.regex kinds fold = .ok body ∧ b.1 ++ '(' :: body ++ [')'] <+: before ++ text := by
  cases nodes with
  | nil => cases hb
  | cons node rest =>
    obtain ⟨first, more, hfirst, hmore, rfl⟩ := regexOf_cons_eq_ok htext
    rw [openingsOf, hfirst] at hb
    rw [← List.append_assoc]
    rcases List.mem_append.mp hb with hb | hb
    · obtain ⟨body, hbody, hp⟩ := Node.exists_body node before hfirst hb
      exact ⟨body, hbody, hp.trans (List.prefix_append _ _)⟩
    · exact Node.exists_bodyOf rest _ hmore hb
termination_by structural nodes
end

end Openings

end RoutePattern
