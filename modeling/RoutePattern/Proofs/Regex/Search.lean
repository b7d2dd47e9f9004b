import Mathlib.Data.Finset.Range
import RoutePattern.Proofs.Regex.Program
import RoutePattern.Regex.Basic

/-! The search of a program finds a way to its end if there is one from some position of the
text. -/
namespace RoutePattern.Regex

namespace Cursor

/-- The position of a text with a number. -/
def nth (text : List Char) (k : Nat) : Cursor := ⟨(text.take k).getLast?, text.drop k, k⟩

/-- A position of a text. -/
def On (text : List Char) (cur : Cursor) : Prop := ∃ k ≤ text.length, cur = .nth text k

variable {text : List Char} {cur cur' : Cursor} {c : Char} {w : List Char}

theorem On.eq_nth (h : cur.On text) : cur.offset ≤ text.length ∧ cur = .nth text cur.offset := by
  obtain ⟨k, hk, rfl⟩ := h
  exact ⟨hk, rfl⟩

theorem On.next (h : cur.On text) (hn : cur.next? = some (c, cur')) : cur'.On text := by
  obtain ⟨k, hk, rfl⟩ := h
  obtain ⟨rest, hr, rfl⟩ := next?_eq_some_iff.mp hn
  change text.drop k = c :: rest at hr
  have hlt : k < text.length := by
    by_contra hge
    rw [List.drop_eq_nil_of_le (Nat.le_of_not_lt hge)] at hr
    cases hr
  rw [List.drop_eq_getElem_cons hlt] at hr
  obtain ⟨hc, hrest⟩ := List.cons.inj hr
  refine ⟨k + 1, hlt, ?_⟩
  have hlast : (text.take (k + 1)).getLast? = some c := by
    rw [List.take_add_one, List.getElem?_eq_getElem hlt, hc, Option.toList_some,
      List.getLast?_concat]
  rw [nth.eq_1 text (k + 1), hlast, hrest]
  rfl

theorem On.passes (h : cur.On text) (hw : cur.Passes w cur') : cur'.On text := by
  induction w generalizing cur with
  | nil =>
    obtain rfl : cur' = cur := hw
    exact h
  | cons c w ih =>
    obtain ⟨mid, hn, hw⟩ := hw
    exact ih (h.next hn) hw

/-- The text in front of a position and the text behind it. -/
theorem On.append_rest (h : cur.On text) :
    ∃ before, before.length = cur.offset ∧ text = before ++ cur.rest := by
  obtain ⟨k, hk, rfl⟩ := h
  exact ⟨text.take k, by rw [List.length_take, Nat.min_eq_left hk]; rfl,
    (List.take_append_drop k text).symm⟩

theorem walk_eq (before : List Char) (htext : text = before ++ w) :
    walk before.getLast? before.length w =
      (List.range' before.length (w.length + 1)).map (Cursor.nth text) := by
  have hnth : Cursor.nth text before.length = ⟨before.getLast?, w, before.length⟩ := by
    rw [nth, htext, List.take_left, List.drop_left]
  -- along the text that is left, with the text in front of it growing
  induction w generalizing before with
  | nil =>
    rw [walk, List.length_nil, Nat.zero_add, List.range'_one, List.map_cons, List.map_nil, hnth]
  | cons c w ih =>
    have htext' : text = (before ++ [c]) ++ w := by rw [htext, List.append_assoc]; rfl
    have hnth' : Cursor.nth text (before ++ [c]).length =
        ⟨(before ++ [c]).getLast?, w, (before ++ [c]).length⟩ := by
      rw [nth, htext', List.take_left, List.drop_left]
    have hrest := ih (before ++ [c]) htext' hnth'
    rw [List.getLast?_concat, List.length_append, List.length_singleton] at hrest
    rw [walk, List.length_cons, List.range'_succ, List.map_cons, hnth, hrest]

theorem walk_eq_range : walk none 0 text = (List.range' 0 (text.length + 1)).map (nth text) :=
  walk_eq [] (List.nil_append text).symm

theorem mem_walk_iff : cur ∈ walk none 0 text ↔ cur.On text := by
  rw [walk_eq_range, List.mem_map, On]
  simp only [List.mem_range'_1, Nat.zero_add, Nat.zero_le, true_and,
    Nat.lt_succ_iff, eq_comm]

theorem length_walk : (walk none 0 text).length = text.length + 1 := by
  rw [walk_eq_range, List.length_map, List.length_range']

end Cursor

section Marks

variable {inst : Inst} {cur cur' : Cursor} {m m' : Marks} {pc pc' : Nat} {code : Array Inst}

/-- The marks do not decide where an instruction leads. -/
theorem Inst.Leads.of_marks (h : inst.Leads (cur, m) pc (cur', m')) (k : Marks) :
    ∃ k', inst.Leads (cur, k) pc (cur', k') := by
  cases inst with
  | set s next =>
    obtain ⟨rfl, c, cursor, hn, hc, he⟩ := h
    cases he
    exact ⟨k, rfl, c, _, hn, hc, rfl⟩
  | look l next =>
    obtain ⟨rfl, hl, he⟩ := h
    cases he
    exact ⟨k, rfl, hl, rfl⟩
  | mark slot next =>
    obtain ⟨rfl, he⟩ := h
    cases he
    exact ⟨_, rfl, rfl⟩
  | fork first second =>
    obtain ⟨hpc, he⟩ := h
    cases he
    exact ⟨k, hpc, rfl⟩
  | done => exact h.elim

theorem Inst.Leads.on {text : List Char} (h : inst.Leads (cur, m) pc (cur', m'))
    (hon : cur.On text) : cur'.On text := by
  cases inst with
  | set s next =>
    obtain ⟨-, c, cursor, hn, -, he⟩ := h
    cases he
    exact hon.next hn
  | look l next =>
    obtain ⟨-, -, he⟩ := h
    cases he
    exact hon
  | mark slot next =>
    obtain ⟨-, he⟩ := h
    cases he
    exact hon
  | fork first second =>
    obtain ⟨-, he⟩ := h
    cases he
    exact hon
  | done => exact h.elim

end Marks

section Explore

variable {code : Array Inst} {text : List Char} {fuel : Nat} {seen : Std.ExtTreeSet Nat}
  {stack : List Thread} {m : Marks}

/-- What the search answers is the end of a way from one of the threads. -/
theorem exists_ends_of_explore (h : explore code fuel seen stack = some m) :
    ∃ t ∈ stack, Ends code t m := by
  induction fuel generalizing seen stack with
  | zero => cases h
  | succ fuel ih =>
    cases stack with
    | nil => cases h
    | cons t rest =>
      have hrest {seen : Std.ExtTreeSet Nat} (h : explore code fuel seen rest = some m) :
          ∃ t' ∈ t :: rest, Ends code t' m := by
        obtain ⟨t', ht', hend⟩ := ih h
        exact ⟨t', List.mem_cons_of_mem _ ht', hend⟩
      rw [explore] at h
      split_ifs at h with hseen
      · exact hrest h
      · split at h
        · exact hrest h
        · next hcode =>
          exact ⟨t, List.mem_cons_self, 0, hcode, (Option.some.inj h).symm⟩
        -- the way from a thread that the instruction leads to begins one step earlier
        · next inst _ hcode =>
          obtain ⟨t', ht', n, hn⟩ := ih h
          rcases List.mem_append.mp ht' with ht' | ht'
          · exact ⟨t, List.mem_cons_self, n + 1, inst, hcode, t', ht', hn⟩
          · exact ⟨t', List.mem_cons_of_mem _ ht', n, hn⟩

theorem contains_insert_iff {k other : Nat} :
    (seen.insert k).contains other = true ↔ other = k ∨ seen.contains other = true := by
  rw [Std.ExtTreeSet.contains_iff_mem, Std.ExtTreeSet.mem_insert, Std.LawfulEqCmp.compare_eq_iff_eq,
    Std.ExtTreeSet.contains_iff_mem, eq_comm]

/-- A thread stands at a position of the text. -/
def Thread.On (text : List Char) (t : Thread) : Prop := t.cursor.On text

/-- The number of an instruction and a position of the text tells both of them. -/
theorem Thread.key_inj {t u : Thread} {width : Nat} (ht : t.On text) (hu : u.On text)
    (htpc : t.pc < width) (hupc : u.pc < width) (h : t.key width = u.key width) :
    t.pc = u.pc ∧ t.cursor = u.cursor := by
  rw [key, key] at h
  have hpc : t.pc = u.pc := by
    have hmod := congrArg (· % width) h
    simpa only [Nat.mul_add_mod_self_right, Nat.mod_eq_of_lt htpc, Nat.mod_eq_of_lt hupc] using hmod
  have hoffset : t.cursor.offset = u.cursor.offset := by
    rw [hpc] at h
    exact Nat.eq_of_mul_eq_mul_right (Nat.zero_lt_of_lt htpc) (Nat.add_right_cancel h)
  refine ⟨hpc, ?_⟩
  rw [ht.eq_nth.2, hu.eq_nth.2, hoffset]

theorem Thread.key_congr {t u : Thread} {width : Nat} (hpc : t.pc = u.pc)
    (hcur : t.cursor = u.cursor) : t.key width = u.key width := by
  rw [key, key, hpc, hcur]

/-- What was tried is not the end of the program, and all that it leads to was tried too or is still
to be tried. -/
def Closed (code : Array Inst) (text : List Char) (tried : Finset Nat) (stack : List Thread) :
    Prop :=
  ∀ t : Thread, t.On text → t.pc < code.size → t.key code.size ∈ tried →
    code[t.pc]? ≠ some .done ∧
      ∀ inst, code[t.pc]? = some inst → ∀ t' ∈ t.advance inst, t'.pc < code.size →
        t'.key code.size ∈ tried ∨ ∃ u ∈ stack, u.pc = t'.pc ∧ u.cursor = t'.cursor

theorem Thread.On.advance {t t' : Thread} {inst : Inst} (ht : t.On text)
    (h : t' ∈ t.advance inst) : t'.On text := by
  obtain ⟨pc', y, hleads, rfl⟩ := mem_advance_iff.mp h
  exact hleads.on ht

/-- Threads that differ in their marks only are led to the same places. -/
theorem exists_mem_advance {t u t' : Thread} {inst : Inst} (hcur : t.cursor = u.cursor)
    (h : t' ∈ t.advance inst) :
    ∃ u' ∈ u.advance inst, u'.pc = t'.pc ∧ u'.cursor = t'.cursor := by
  obtain ⟨pc', y, hleads, rfl⟩ := mem_advance_iff.mp h
  rw [hcur] at hleads
  obtain ⟨k', hk⟩ := hleads.of_marks u.marks
  exact ⟨_, mem_advance_iff.mpr ⟨pc', _, hk, rfl⟩, rfl, rfl⟩

/-- The pairs of an instruction and a position. -/
def keys (code : Array Inst) (text : List Char) : Nat := (text.length + 1) * code.size

theorem Thread.key_lt {t : Thread} (ht : t.On text) (hpc : t.pc < code.size) :
    t.key code.size < keys code text := by
  have hle := ht.eq_nth.1
  calc t.key code.size < t.cursor.offset * code.size + code.size := Nat.add_lt_add_left hpc _
    _ = (t.cursor.offset + 1) * code.size := (Nat.succ_mul _ _).symm
    _ ≤ keys code text := Nat.mul_le_mul_right _ (Nat.succ_le_succ hle)

theorem length_advance_le (t : Thread) (inst : Inst) : (t.advance inst).length ≤ 2 := by
  cases inst with
  | set s next =>
    rw [Thread.advance]
    split
    · split <;> simp
    · simp
  | look l next =>
    rw [Thread.advance]
    split <;> simp
  | mark slot next => simp [Thread.advance]
  | fork first second => simp [Thread.advance]
  | done => simp [Thread.advance]

section Closed

variable {tried : Finset Nat} {t : Thread} {rest : List Thread}

/-- A thread that was tried, or has no instruction, is not needed on the stack. -/
theorem Closed.pop (h : Closed code text tried (t :: rest))
    (ht : t.pc < code.size → t.key code.size ∈ tried) : Closed code text tried rest := by
  intro u hu hupc hukey
  obtain ⟨hd, hnext⟩ := h u hu hupc hukey
  refine ⟨hd, fun inst hi u' hu' hpc => ?_⟩
  rcases hnext inst hi u' hu' hpc with hin | ⟨v, hv, hvpc, hvcur⟩
  · exact Or.inl hin
  · rcases List.mem_cons.mp hv with rfl | hv
    · left
      rw [← Thread.key_congr hvpc hvcur]
      apply ht
      rwa [hvpc]
    · exact Or.inr ⟨v, hv, hvpc, hvcur⟩

/-- A thread that takes its instruction was tried, and what it leads to is on the stack. -/
theorem Closed.advance {inst : Inst} (h : Closed code text tried (t :: rest)) (ht : t.On text)
    (hcode : code[t.pc]? = some inst) (hdone : inst ≠ .done) :
    Closed code text (insert (t.key code.size) tried) (t.advance inst ++ rest) := by
  have hpc : t.pc < code.size := (Array.getElem?_eq_some_iff.mp hcode).1
  intro u hu hupc hukey
  rcases Finset.mem_insert.mp hukey with heq | hukey
  · -- the key tells the place, and the marks do not matter for where it leads
    obtain ⟨hpceq, hcureq⟩ := Thread.key_inj hu ht hupc hpc heq
    rw [hpceq, hcode]
    refine ⟨fun hd => hdone (Option.some.inj hd), fun inst' hi u' hu' _ => Or.inr ?_⟩
    obtain rfl := Option.some.inj hi
    obtain ⟨v, hv, hvpc, hvcur⟩ := exists_mem_advance hcureq hu'
    exact ⟨v, List.mem_append_left _ hv, hvpc, hvcur⟩
  · obtain ⟨hd, hnext⟩ := h u hu hupc hukey
    refine ⟨hd, fun inst' hi u' hu' hupc' => ?_⟩
    rcases hnext inst' hi u' hu' hupc' with hin | ⟨v, hv, hvpc, hvcur⟩
    · exact Or.inl (Finset.mem_insert_of_mem hin)
    · rcases List.mem_cons.mp hv with rfl | hv
      · left
        rw [← Thread.key_congr hvpc hvcur]
        exact Finset.mem_insert_self _ _
      · exact Or.inr ⟨v, List.mem_append_right _ hv, hvpc, hvcur⟩

end Closed

/-- A search that fails has tried all that can be reached. -/
theorem exists_closed_of_explore {tried : Finset Nat}
    (h : explore code fuel seen stack = none) (hseen : ∀ k, seen.contains k = true ↔ k ∈ tried)
    (hrange : tried ⊆ Finset.range (keys code text)) (hon : ∀ t ∈ stack, t.On text)
    (hclosed : Closed code text tried stack)
    (hfuel : stack.length + 2 * (keys code text - tried.card) < fuel) :
    ∃ all : Finset Nat, tried ⊆ all ∧ Closed code text all [] ∧
      ∀ t ∈ stack, t.pc < code.size → t.key code.size ∈ all := by
  induction fuel generalizing seen stack tried with
  | zero => omega
  | succ fuel ih =>
    cases stack with
    | nil => exact ⟨tried, Finset.Subset.refl _, hclosed, nofun⟩
    | cons t rest =>
      have honr : ∀ u ∈ rest, u.On text := fun u hu => hon u (List.mem_cons_of_mem _ hu)
      have hont := hon t List.mem_cons_self
      rw [List.length_cons] at hfuel
      have hpop (hkey : t.pc < code.size → t.key code.size ∈ tried)
          (h : explore code fuel seen rest = none) :
          ∃ all : Finset Nat, tried ⊆ all ∧ Closed code text all [] ∧
            ∀ u ∈ t :: rest, u.pc < code.size → u.key code.size ∈ all := by
        obtain ⟨all, hsub, hall, hrest⟩ := ih h hseen hrange honr (hclosed.pop hkey) (by omega)
        refine ⟨all, hsub, hall, fun u hu hupc => ?_⟩
        rcases List.mem_cons.mp hu with rfl | hu
        · exact hsub (hkey hupc)
        · exact hrest u hu hupc
      rw [explore] at h
      split_ifs at h with hk
      · exact hpop (fun _ => (hseen _).mp hk) h
      · split at h
        · next hcode =>
          refine hpop (fun hlt => ?_) h
          rw [Array.getElem?_eq_getElem hlt] at hcode
          cases hcode
        · cases h
        · next inst hdone hcode =>
          have hpc : t.pc < code.size := (Array.getElem?_eq_some_iff.mp hcode).1
          have hkey : t.key code.size ∉ tried := fun hm => hk ((hseen _).mpr hm)
          have hseen' (k : Nat) : (seen.insert (t.key code.size)).contains k = true ↔
              k ∈ insert (t.key code.size) tried := by
            rw [contains_insert_iff, hseen, Finset.mem_insert]
          have hrange' : insert (t.key code.size) tried ⊆ Finset.range (keys code text) := by
            apply Finset.insert_subset _ hrange
            exact Finset.mem_range.mpr (Thread.key_lt hont hpc)
          have hon' : ∀ u ∈ t.advance inst ++ rest, u.On text := by
            intro u hu
            rcases List.mem_append.mp hu with hu | hu
            · exact hont.advance hu
            · exact honr u hu
          have hclosed' := hclosed.advance hont hcode hdone
          -- an instruction leaves two threads at most, for which the key that is new pays
          have hcard := Finset.card_le_card hrange'
          rw [Finset.card_range, Finset.card_insert_of_notMem hkey] at hcard
          have hlen := length_advance_le t inst
          have hfuel' : (t.advance inst ++ rest).length +
              2 * (keys code text - (insert (t.key code.size) tried).card) < fuel := by
            rw [List.length_append, Finset.card_insert_of_notMem hkey]
            omega
          obtain ⟨all, hsub, hall, hrest⟩ := ih h hseen' hrange' hon' hclosed' hfuel'
          refine ⟨all, (Finset.subset_insert _ _).trans hsub, hall, fun u hu hupc => ?_⟩
          rcases List.mem_cons.mp hu with rfl | hu
          · exact hsub (Finset.mem_insert_self _ _)
          · exact hrest u (List.mem_append_right _ hu) hupc

/-- From what a closed set holds the end of the program is not reached. -/
theorem Closed.not_endsIn {all : Finset Nat} (h : Closed code text all []) {n : Nat} {t : Thread}
    (ht : t.On text) (hkey : t.pc < code.size → t.key code.size ∈ all) : ¬ EndsIn code n t m := by
  -- along the way: each thread on it is in the set, and none in the set is at the end
  induction n generalizing t with
  | zero =>
    intro hx
    obtain ⟨hdone, -⟩ := hx
    have hpc := (Array.getElem?_eq_some_iff.mp hdone).1
    exact (h t ht hpc (hkey hpc)).1 hdone
  | succ n ih =>
    intro hx
    obtain ⟨inst, hcode, t', ht', hn⟩ := hx
    have hpc := (Array.getElem?_eq_some_iff.mp hcode).1
    refine ih (ht.advance ht') (fun hpc' => ?_) hn
    rcases (h t ht hpc (hkey hpc)).2 inst hcode t' ht' hpc' with hin | ⟨u, hu, -⟩
    · exact hin
    · cases hu

end Explore

/-- A program finds the marks of a match if its term matches somewhere in the text, and none
else. -/
theorem Term.run_program (t : Term) (text : List Char) :
    (∀ m, t.program.run text = some m →
      ∃ start stop : Cursor, start.On text ∧ (group 0 t).Runs (start, []) (stop, m)) ∧
    (t.program.run text = none →
      ∀ (start : Cursor) (y : Spot), start.On text → ¬ (group 0 t).Runs (start, []) y) := by
  have hstarts (u : Thread) : u ∈ (Cursor.walk none 0 text).map
      (fun cursor => (⟨t.program.start, cursor, []⟩ : Thread)) ↔
        ∃ cur : Cursor, cur.On text ∧ u = .of t.program.start (cur, []) := by
    rw [List.mem_map]
    simp only [Cursor.mem_walk_iff, Thread.of, eq_comm]
  constructor
  · intro m h
    obtain ⟨u, hu, hend⟩ := exists_ends_of_explore h
    obtain ⟨start, hon, rfl⟩ := (hstarts u).mp hu
    obtain ⟨stop, hrun⟩ := t.ends_program_iff.mp hend
    exact ⟨start, stop, hon, hrun⟩
  · intro h start y hon hrun
    have hclosed : Closed t.program.code text ∅ ((Cursor.walk none 0 text).map
        fun cursor => (⟨t.program.start, cursor, []⟩ : Thread)) := by
      intro u _ _ hu
      exact absurd hu (Finset.notMem_empty _)
    -- every position is a start, so that a set closed behind all starts is left
    obtain ⟨all, -, hall, hkeys⟩ := exists_closed_of_explore h
      (fun k => by simp) (Finset.empty_subset _)
      (fun u hu => by
        obtain ⟨cur, hcur, rfl⟩ := (hstarts u).mp hu
        exact hcur)
      hclosed (by
        rw [List.length_map, Cursor.length_walk, Finset.card_empty, keys, Nat.sub_zero,
          Nat.mul_add, Nat.mul_one, Nat.mul_left_comm]
        omega)
    obtain ⟨n, hn⟩ := t.ends_program_iff.mpr ⟨y.1, hrun⟩
    have hmem := (hstarts _).mpr ⟨start, hon, rfl⟩
    exact hall.not_endsIn (t := .of t.program.start (start, [])) hon (hkeys _ hmem) hn

theorem Term.run_program_isSome {t : Term} {text : List Char} {start : Cursor} {y : Spot}
    (hon : start.On text) (hr : (group 0 t).Runs (start, []) y) :
    (t.program.run text).isSome = true := by
  cases hrun : t.program.run text with
  | none => exact absurd hr ((run_program t text).2 hrun start y hon)
  | some m => rfl

end RoutePattern.Regex
