import RoutePattern.Proofs.Build.Url
import RoutePattern.Proofs.Query.Writing

/-! Built URLs keep apart what they are built of: no text of an argument or of a pattern is taken for a
delimiter of the path or of the query, and the arguments in the query are read back. -/
namespace RoutePattern

open Text

/-- A part of a built path: a delimiter, or a text that is yet to be written. -/
inductive Part
  | delimiter
  | text (s : String)
deriving DecidableEq

namespace Part

def chars : Part → List Char
  | delimiter => []
  | text s => s.toList

def written : Part → List Char
  | delimiter => ['/']
  | text s => Percent.encode s.toList

end Part

/-- Whether a part of a path is a param without a value. -/
def Node.lacks (args : Bindings) : Node → Bool
  | .param p => (p.resolved args).isEmpty
  | _ => false

mutual
/-- What there is of a part of a path with the arguments: nothing of a group that lacks the value of a
param, groups within it aside. -/
def Node.rendered (args : Bindings) : Node → List Part
  | .literal text => [.text text]
  | .delimiter => [.delimiter]
  | .param p => [.text (p.resolved args)]
  | .option children =>
    if children.any (Node.lacks args) then [] else Node.renderedAll args children
termination_by structural node => node

def Node.renderedAll (args : Bindings) : List Node → List Part
  | [] => []
  | node :: rest => node.rendered args ++ Node.renderedAll args rest
termination_by structural nodes => nodes
end

/-- Texts of letters, digits and some marks, of percent triplets with capitals, and of slashes. -/
inductive UrlPath : List Char → Prop
  | nil : UrlPath []
  | alphanum {c : Char} {w : List Char} : c.isAlphanum = true → UrlPath w → UrlPath (c :: w)
  | mark {c : Char} {w : List Char} : c ∈ ['-', '_', '.', '~', '!', '\'', '(', ')', '*'] →
      UrlPath w → UrlPath (c :: w)
  | triplet {a b : Char} {w : List Char} : a ∈ "0123456789ABCDEF".toList →
      b ∈ "0123456789ABCDEF".toList → UrlPath w → UrlPath ('%' :: a :: b :: w)
  | slash {w : List Char} : UrlPath w → UrlPath ('/' :: w)

namespace Value

/-- The texts of an argument: those of its elements if it is an array, else its own. -/
def texts : Value → List String
  | array items => items.map scalarText
  | v => [v.scalarText]

end Value

namespace Pattern

/-- Whether a param has a name, or a dotted name whose first segment it is. -/
def Owned (p : Pattern) (key : String) : Prop :=
  ∃ q ∈ p.params, q.name = key ∨ '.' ∉ key.toList ∧ ∃ more, q.name = key ++ "." ++ more

end Pattern

section Path

variable {args : Bindings} {v w : List Char}

theorem Node.buildAll_snd (nodes : List Node) :
    (Node.buildAll args nodes).2 = nodes.any (Node.lacks args) := by
  induction nodes with
  | nil => rfl
  | cons node rest ih =>
    rw [Node.buildAll, List.any_cons, ih]
    cases node <;> rfl

mutual
theorem Node.build_eq_rendered (node : Node) :
    (node.build args).1 = (node.rendered args).flatMap Part.written := by
  cases node with
  | option children =>
    rw [Node.build, Node.rendered, Node.buildAll_snd]
    split
    · rfl
    · exact Node.buildAll_eq_rendered children
  | _ => exact (List.flatMap_singleton _ _).symm
termination_by structural node

theorem Node.buildAll_eq_rendered (nodes : List Node) :
    (Node.buildAll args nodes).1 = (Node.renderedAll args nodes).flatMap Part.written := by
  cases nodes with
  | nil => rfl
  | cons node rest =>
    rw [Node.buildAll, Node.renderedAll, List.flatMap_append, Node.build_eq_rendered node,
      Node.buildAll_eq_rendered rest]
termination_by structural nodes
end

theorem UrlPath.append (hv : UrlPath v) (hw : UrlPath w) : UrlPath (v ++ w) := by
  induction hv with
  | nil => exact hw
  | alphanum hc _ ih => exact .alphanum hc ih
  | mark hc _ ih => exact .mark hc ih
  | triplet ha hb _ ih => exact .triplet ha hb ih
  | slash _ ih => exact .slash ih

theorem UrlPath.flatMap {α : Type} {f : α → List Char} {l : List α}
    (h : ∀ a ∈ l, UrlPath (f a)) : UrlPath (l.flatMap f) := by
  induction l with
  | nil => exact .nil
  | cons a l ih =>
    obtain ⟨ha, hl⟩ := List.forall_mem_cons.mp h
    exact ha.append (ih hl)

theorem hexDigit_mem {n : Nat} (h : n < 16) : hexDigit n ∈ "0123456789ABCDEF".toList := by
  have hall : ∀ n < 16, hexDigit n ∈ "0123456789ABCDEF".toList := by decide
  exact hall n h

theorem urlPath_encode (text : List Char) : UrlPath (Percent.encode text) := by
  rw [Percent.encode]
  refine .flatMap fun b _ => ?_
  rw [Percent.encodeByte]
  split
  · next hkept =>
    rcases (Bool.or_eq_true _ _).mp hkept with halphanum | hmark
    · exact .alphanum halphanum .nil
    · exact .mark (List.contains_iff_mem.mp hmark) .nil
  · have hb : b.toNat < 256 := b.toNat_lt
    exact .triplet (hexDigit_mem (by omega)) (hexDigit_mem (by omega)) .nil

theorem urlPath_written (part : Part) : UrlPath part.written := by
  cases part with
  | delimiter => exact .slash .nil
  | text s => exact urlPath_encode s.toList

theorem count_slash (parts : List Part) :
    (parts.flatMap Part.written).count '/' = parts.count .delimiter := by
  induction parts with
  | nil => rfl
  | cons part parts ih =>
    rw [List.flatMap_cons, List.count_append, ih, List.count_cons]
    cases part with
    | delimiter =>
      rw [Part.written, List.count_singleton_self, if_pos (beq_self_eq_true _), Nat.add_comm]
    | text s =>
      rw [Part.written, List.count_eq_zero.mpr (slash_not_mem_encode _), if_neg nofun, Nat.zero_add,
        Nat.add_zero]

/-- Between slashes stand written texts that stood between delimiters. -/
theorem splitAll_slash (parts : List Part) :
    splitAll '/' (parts.flatMap Part.written) =
      (splitAll .delimiter parts).map fun stretch =>
        Percent.encode (stretch.flatMap Part.chars) := by
  induction parts with
  | nil => rfl
  | cons part parts ih =>
    rw [List.flatMap_cons]
    cases part with
    | delimiter =>
      rw [Part.written, List.singleton_append, splitAll, if_pos rfl, ih, splitAll, if_pos rfl]
      rfl
    | text s =>
      -- a text belongs to the first stretch, on either side
      have hsplit : splitAll .delimiter ([.text s] ++ parts) =
          (splitAll .delimiter parts).modifyHead ([.text s] ++ ·) :=
        splitAll_append (by simp) parts
      rw [Part.written, splitAll_append (slash_not_mem_encode _), ih, ← List.singleton_append,
        hsplit]
      cases splitAll .delimiter parts with
      | nil => rfl
      | cons first more =>
        rw [List.map_cons, List.modifyHead_cons, List.modifyHead_cons, List.map_cons,
          List.flatMap_append, List.flatMap_singleton, Percent.encode_append]
        rfl

end Path

section Query

namespace Pattern

variable {p : Pattern} {args : Bindings} {key : String}

theorem owns_iff : p.owns key = true ↔ p.Owned key := by
  rw [owns, List.any_eq_true]
  refine exists_congr fun q => and_congr_right fun _ => ?_
  rw [Bool.or_eq_true, beq_iff_eq, Bool.and_eq_true, List.contains_iff_mem, beq_iff_eq]
  refine or_congr Iff.rfl ?_
  constructor
  · -- the first dot of the name ends its first segment, which therefore has none
    intro h
    obtain ⟨hdot, hhead⟩ := h
    obtain ⟨first, more, hname, hfirst⟩ := List.eq_append_cons_of_mem hdot
    rw [segments, hname, splitAll_append_cons hfirst] at hhead
    obtain rfl : String.ofList first = key := Option.some.inj hhead
    rw [String.toList_ofList]
    refine ⟨hfirst, String.ofList more, String.toList_inj.mp ?_⟩
    rw [hname]
    simp
  · intro h
    obtain ⟨hdot, more, hname⟩ := h
    have htext : q.name.toList = key.toList ++ '.' :: more.toList := by
      rw [hname]
      simp
    rw [segments, htext, splitAll_append_cons hdot]
    simp

instance : Decidable (p.Owned key) := decidable_of_iff _ owns_iff

/-- The arguments that no param stands for, in order, each with its texts that are not empty. -/
def unowned (p : Pattern) (args : Bindings) : List (String × String) :=
  args.flatMap fun (key, v) =>
    if p.Owned key then [] else (v.texts.filter (· ≠ "")).map fun text => (key, text)

/-- What is left over are the arguments that no param stands for. -/
theorem map_leftover :
    (p.leftover args).map (fun pair => (pair.key, pair.value)) = p.unowned args := by
  rw [leftover, unowned, List.map_flatMap]
  simp only [List.map_map]
  induction args with
  | nil => rfl
  | cons arg rest ih =>
    rw [List.flatMap_cons, ← ih, List.filter_cons]
    by_cases howned : p.Owned arg.1
    · rw [owns_iff.mpr howned, if_pos howned]
      rfl
    · have hfree : p.owns arg.1 = false := Bool.eq_false_iff.mpr fun h => howned (owns_iff.mp h)
      rw [hfree, if_neg howned]
      rfl

theorem leftover_eq_nil_iff : p.leftover args = [] ↔ p.unowned args = [] := by
  rw [← map_leftover, List.map_eq_nil_iff]

theorem queryText?_eq_none_iff : p.queryText? args = none ↔ p.unowned args = [] := by
  rw [← leftover_eq_nil_iff, queryText?]
  cases p.leftover args with
  | nil => exact iff_of_true rfl rfl
  | cons pair pairs => exact iff_of_false (Option.some_ne_none _) (List.cons_ne_nil pair pairs)

theorem pairs_of_queryText? {text : List Char} (h : p.queryText? args = some text) :
    Query.pairs (String.ofList text) = p.unowned args := by
  have htext : text = ['&'].intercalate ((p.leftover args).map written) := by
    rw [queryText?] at h
    split at h
    · cases h
    · exact (Option.some.inj h).symm
  rw [htext, Query.pairs_written, map_leftover]

end Pattern

end Query

/-- A built URL is a path, and behind a question mark a query if arguments are left for it. The path is
a text of letters, digits, marks, triplets and slashes. Its slashes are the delimiters that are
rendered, and between them stands the written form of what is rendered there. The pairs of the query
are the arguments that no param stands for. -/
theorem Rule.build_separates {α : Type} (rule : Rule α) (args : Bindings) :
    ∃ (path : List Char) (query : Option (List Char)),
      (rule.build args).toList = path ++ query.elim [] ('?' :: ·) ∧
      Query.splitUrl (rule.build args) = (String.ofList path, query.map String.ofList) ∧
      UrlPath path ∧
      path.count '/' = (Node.renderedAll args rule.pattern.path).count .delimiter ∧
      splitAll '/' path =
        (splitAll .delimiter (Node.renderedAll args rule.pattern.path)).map (fun stretch =>
          Percent.encode (stretch.flatMap Part.chars)) ∧
      (query = none ↔ rule.pattern.unowned args = []) ∧
      ∀ text ∈ query, Query.pairs (String.ofList text) = rule.pattern.unowned args := by
  refine ⟨(Node.buildAll args rule.pattern.path).1, rule.pattern.queryText? args,
    Pattern.toList_build, Pattern.splitUrl_build_eq, ?_, ?_, ?_, Pattern.queryText?_eq_none_iff,
    fun text htext => Pattern.pairs_of_queryText? htext⟩
  all_goals rw [Node.buildAll_eq_rendered]
  · exact .flatMap fun part _ => urlPath_written part
  · exact count_slash _
  · exact splitAll_slash _

end RoutePattern
