import Mathlib.Tactic

/-!
# The second-chance sweep

A queue of items, some of them marked. A turn looks at the item at the front: a marked one loses its
mark and goes to the back, an unmarked one is chosen. `sweep` takes turns until an item is chosen and
returns that item, the items it passed over and the queue it leaves (without the item).

`sweep_passes` is the whole behaviour over a prefix of marked items; from it follow the item that
is chosen when some item is unmarked (`sweep_of_unmarked`: the first one) and when all are marked
(`sweep_of_marked`: the front one, after one lap), and that one turn more than there are items
always suffices (`sweep_total`). However it ends, the queue it leaves, with the item chosen behind it,
is a rotation of the one it found (`sweep_isRotated`).

How long an item has left is its `rank`: its place in the queue, and a whole queue more while it is
marked. Every sweep that chooses another item takes it down (`sweep_rank`).
-/

namespace VmPager.Lib.SecondChance

variable {α : Type} [DecidableEq α]

/-- The marks after the marks of some items are taken away. -/
def unmark (marked : α → Bool) (passed : List α) : α → Bool :=
  fun x => marked x && decide (x ∉ passed)

/-- Sweep for at most `fuel` turns: the item chosen, the items passed over and the rest of the
queue. -/
def sweep : ℕ → (α → Bool) → List α → Option (α × List α × List α)
  | 0, _, _ => none
  | _ + 1, _, [] => none
  | fuel + 1, marked, a :: queue =>
    if marked a then
      (sweep fuel (unmark marked [a]) (queue ++ [a])).map fun r => (r.1, a :: r.2.1, r.2.2)
    else
      some (a, [], queue)

@[simp] lemma unmark_nil (marked : α → Bool) : unmark marked [] = marked := by
  funext x
  simp [unmark]

lemma unmark_unmark (marked : α → Bool) (a : α) (l : List α) :
    unmark (unmark marked [a]) l = unmark marked (a :: l) := by
  funext x
  simp only [unmark, List.mem_cons, List.not_mem_nil, or_false, not_or, Bool.decide_and,
    Bool.and_assoc]

/-- **A prefix of marked items is passed over**, in order, and ends up behind the rest. -/
theorem sweep_passes : ∀ (pre : List α) (fuel : ℕ) (marked : α → Bool) (post : List α),
    pre.Nodup → (∀ x ∈ pre, marked x = true) →
    sweep (pre.length + fuel) marked (pre ++ post) =
      (sweep fuel (unmark marked pre) (post ++ pre)).map fun r => (r.1, pre ++ r.2.1, r.2.2) := by
  intro pre
  induction pre with
  | nil => intro fuel marked post _ _; simp
  | cons a pre ih =>
    intro fuel marked post hnd hm
    obtain ⟨ha, hnd⟩ := List.nodup_cons.1 hnd
    -- the other marks are still there after the front one is taken away
    have hm' : ∀ x ∈ pre, unmark marked [a] x = true := by
      intro x hx
      have hne : x ≠ a := fun h => ha (h ▸ hx)
      simp [unmark, hm x (by simp [hx]), hne]
    have hlen : (a :: pre).length + fuel = (pre.length + fuel) + 1 := by simp; omega
    rw [hlen, List.cons_append, sweep, if_pos (hm a (by simp)), List.append_assoc,
      ih fuel (unmark marked [a]) (post ++ [a]) hnd hm', unmark_unmark, Option.map_map]
    simp [Function.comp_def]

/-- **The first unmarked item is chosen**; the items before it are passed over. -/
theorem sweep_of_unmarked {marked : α → Bool} {pre post : List α} {a : α} {fuel : ℕ}
    (hnd : (pre ++ a :: post).Nodup) (hm : ∀ x ∈ pre, marked x = true) (ha : marked a = false)
    (hf : pre.length < fuel) :
    sweep fuel marked (pre ++ a :: post) = some (a, pre, post ++ pre) := by
  obtain ⟨k, rfl⟩ : ∃ k, fuel = pre.length + (k + 1) := ⟨fuel - pre.length - 1, by omega⟩
  have ha' : unmark marked pre a = false := by simp [unmark, ha]
  rw [sweep_passes pre _ marked _ (List.nodup_append.1 hnd).1 hm, List.cons_append, sweep,
    ha']
  simp

/-- **When all items are marked the front one is chosen**, after one lap. -/
theorem sweep_of_marked {marked : α → Bool} {a : α} {rest : List α} {fuel : ℕ}
    (hnd : (a :: rest).Nodup) (hm : ∀ x ∈ a :: rest, marked x = true)
    (hf : (a :: rest).length < fuel) :
    sweep fuel marked (a :: rest) = some (a, a :: rest, rest) := by
  obtain ⟨k, rfl⟩ : ∃ k, fuel = (a :: rest).length + (k + 1) :=
    ⟨fuel - (a :: rest).length - 1, by omega⟩
  have ha : unmark marked (a :: rest) a = false := by simp [unmark]
  have h := sweep_passes (a :: rest) (k + 1) marked [] hnd hm
  rw [List.append_nil, List.nil_append, sweep, ha] at h
  simpa using h

omit [DecidableEq α] in
/-- A queue has a first unmarked item, or all of it is marked. -/
theorem first_unmarked (marked : α → Bool) (queue : List α) :
    (∃ pre a post, queue = pre ++ a :: post ∧ (∀ x ∈ pre, marked x = true) ∧ marked a = false) ∨
      ∀ x ∈ queue, marked x = true := by
  induction queue with
  | nil => exact .inr (by simp)
  | cons b queue ih =>
    by_cases hb : marked b = true
    · rcases ih with ⟨pre, a, post, rfl, hpre, ha⟩ | hall
      · exact .inl ⟨b :: pre, a, post, rfl, by simpa [hb] using hpre, ha⟩
      · exact .inr (by simpa [hb] using hall)
    · exact .inl ⟨[], b, queue, rfl, by simp, by simpa using hb⟩

/-- One turn more than there are items suffices, and what is chosen and left are the items of the
queue. -/
theorem sweep_total {marked : α → Bool} {queue : List α} (hnd : queue.Nodup) (hne : queue ≠ [])
    {fuel : ℕ} (hf : queue.length < fuel) :
    ∃ a passed rest, sweep fuel marked queue = some (a, passed, rest) ∧
      (rest ++ [a]).Perm queue ∧ passed.Nodup ∧ passed ⊆ queue ∧
      (∀ x ∈ passed, marked x = true) ∧ unmark marked passed a = false := by
  rcases first_unmarked marked queue with ⟨pre, a, post, rfl, hpre, ha⟩ | hall
  · refine ⟨a, pre, post ++ pre, sweep_of_unmarked hnd hpre ha (by simp at hf; omega), ?_,
      (List.nodup_append.1 hnd).1, by simp, hpre, by simp [unmark, ha]⟩
    calc (post ++ pre ++ [a]).Perm (a :: (post ++ pre)) := List.perm_append_singleton _ _
      _ |>.Perm (a :: (pre ++ post)) := (List.perm_append_comm).cons a
      _ |>.Perm (pre ++ a :: post) := List.perm_middle.symm
  · cases queue with
    | nil => exact absurd rfl hne
    | cons a rest =>
      exact ⟨a, a :: rest, rest, sweep_of_marked hnd hall hf, List.perm_append_singleton _ _, hnd,
        List.Subset.refl _, hall, by simp [unmark]⟩

/-- **A sweep rotates the queue.** -/
theorem sweep_isRotated : ∀ {fuel : ℕ} {marked : α → Bool} {queue passed rest : List α} {a : α},
    sweep fuel marked queue = some (a, passed, rest) → queue ~r (rest ++ [a]) := by
  intro fuel
  induction fuel with
  | zero =>
    intro marked queue passed rest a h
    cases h
  | succ fuel ih =>
    intro marked queue passed rest a h
    cases queue with
    | nil => cases h
    | cons b queue =>
      -- the item at the front goes to the back, marked or not
      have hb : (b :: queue) ~r (queue ++ [b]) := List.isRotated_append (l := [b])
      by_cases hm : marked b = true
      · rw [sweep, if_pos hm] at h
        obtain ⟨⟨a', passed', rest'⟩, hs, heq⟩ := Option.map_eq_some_iff.1 h
        cases heq
        exact hb.trans (ih hs)
      · rw [sweep, if_neg hm] at h
        cases h
        exact hb

/-- **The names of the items do not matter**: items renamed one to one, with the same marks, are swept
in the same way. -/
theorem sweep_map {β : Type} [DecidableEq β] {f : α → β} : ∀ {fuel : ℕ} {marked : α → Bool}
    {marked' : β → Bool} {queue : List α}, (∀ x ∈ queue, ∀ y ∈ queue, f x = f y → x = y) →
    (∀ x ∈ queue, marked' (f x) = marked x) → sweep fuel marked' (queue.map f) =
      (sweep fuel marked queue).map fun r => (f r.1, r.2.1.map f, r.2.2.map f) := by
  intro fuel
  induction fuel with
  | zero => exact fun _ _ => rfl
  | succ fuel ih =>
    intro marked marked' queue hinj hmarked
    cases queue with
    | nil => rfl
    | cons a queue =>
      have hturn : ∀ x ∈ queue ++ [a], x ∈ a :: queue := by simp [or_comm]
      have hm : ∀ x ∈ queue ++ [a], unmark marked' [f a] (f x) = unmark marked [a] x := by
        intro x hx
        have heq : f x = f a ↔ x = a := ⟨hinj x (hturn x hx) a List.mem_cons_self, congrArg f⟩
        simp only [unmark, hmarked x (hturn x hx), List.mem_singleton, heq]
      have hrest := ih (fun x hx y hy => hinj x (hturn x hx) y (hturn y hy)) hm
      rw [List.map_append, List.map_singleton] at hrest
      rw [List.map_cons, sweep, sweep, hmarked a List.mem_cons_self]
      split
      · rw [hrest, Option.map_map, Option.map_map]
        rfl
      · rfl

/-! ### The rank of an item -/

/-- The two ways a sweep ends. -/
theorem sweep_cases {fuel : ℕ} {marked : α → Bool} {queue passed rest : List α} {a : α}
    (hnd : queue.Nodup) (hf : queue.length < fuel)
    (h : sweep fuel marked queue = some (a, passed, rest)) :
    (∃ post, queue = passed ++ a :: post ∧ rest = post ++ passed ∧
        (∀ x ∈ passed, marked x = true) ∧ marked a = false) ∨
      (passed = queue ∧ queue = a :: rest ∧ ∀ x ∈ queue, marked x = true) := by
  rcases first_unmarked marked queue with ⟨pre, b, post, rfl, hpre, hb⟩ | hall
  · rw [sweep_of_unmarked hnd hpre hb (by simp at hf; omega)] at h
    cases h
    exact .inl ⟨post, rfl, rfl, hpre, hb⟩
  · cases queue with
    | nil =>
      cases fuel <;> cases h
    | cons b queue =>
      rw [sweep_of_marked hnd hall hf] at h
      cases h
      exact .inr ⟨rfl, rfl, hall⟩

/-- Only items of the queue are passed over. -/
lemma sweep_passed {fuel : ℕ} {marked : α → Bool} {queue passed rest : List α} {a : α}
    (hnd : queue.Nodup) (hf : queue.length < fuel)
    (h : sweep fuel marked queue = some (a, passed, rest)) : ∀ x ∈ passed, x ∈ queue := by
  rcases sweep_cases hnd hf h with ⟨post, rfl, -⟩ | ⟨rfl, -⟩
  · exact fun x hx => List.mem_append_left _ hx
  · exact fun x hx => hx

/-- The place of an item in the queue, and `cap` more while it is marked. -/
def rank (cap : ℕ) (marked : Bool) (queue : List α) (a : α) : ℕ :=
  queue.idxOf a + if marked then cap else 0

theorem rank_lt {cap : ℕ} {queue : List α} {a : α} (ha : a ∈ queue) (hcap : queue.length ≤ cap)
    (marked : Bool) : rank cap marked queue a < 2 * cap := by
  have hlt := List.idxOf_lt_length_of_mem ha
  unfold rank
  split <;> omega

/-- An item comes no later in a part of the queue. -/
theorem idxOf_le_of_sublist {queue part : List α} {a : α} (h : part.Sublist queue)
    (hnd : queue.Nodup) (ha : a ∈ part) : part.idxOf a ≤ queue.idxOf a := by
  induction h with
  | slnil => exact le_rfl
  | @cons l₁ l₂ b hs ih =>
    obtain ⟨hb, hnd⟩ := List.nodup_cons.1 hnd
    have hne : b ≠ a := fun hba => hb (hba ▸ hs.subset ha)
    rw [List.idxOf_cons_ne _ hne]
    exact (ih hnd ha).trans (Nat.le_succ _)
  | @cons_cons l₁ l₂ b hs ih =>
    by_cases hba : b = a
    · rw [List.idxOf_cons_eq _ hba]
      exact Nat.zero_le _
    · rw [List.idxOf_cons_ne _ hba, List.idxOf_cons_ne _ hba]
      exact Nat.succ_le_succ
        (ih (List.nodup_cons.1 hnd).2 ((List.mem_cons.1 ha).resolve_left (Ne.symm hba)))

/-- **A sweep that chooses another item takes the rank down.** An item passed over loses its mark,
and what that is worth; another one comes forward. -/
theorem sweep_rank {fuel cap : ℕ} {marked : α → Bool} {queue passed rest : List α} {a b : α}
    (hnd : queue.Nodup) (hf : queue.length < fuel) (hcap : queue.length ≤ cap)
    (h : sweep fuel marked queue = some (a, passed, rest)) (hb : b ∈ queue) (hne : b ≠ a) :
    rank cap (unmark marked passed b) (rest ++ [a]) b < rank cap (marked b) queue b := by
  unfold rank
  rcases sweep_cases hnd hf h with ⟨post, rfl, rfl, hm, -⟩ | ⟨rfl, rfl, hall⟩
  · simp only [List.length_append, List.length_cons] at hcap
    by_cases hp : b ∈ passed
    · have hun : unmark marked passed b = false := by simp [unmark, hp]
      have hlt : (post ++ passed).idxOf b < post.length + passed.length := by
        rw [← List.length_append]
        exact List.idxOf_lt_length_of_mem (List.mem_append_right _ hp)
      rw [hun, hm b hp, if_pos rfl, if_neg Bool.false_ne_true,
        List.idxOf_append_of_mem (List.mem_append_right _ hp)]
      omega
    · have hpost : b ∈ post := by simpa [hp, hne] using hb
      have hun : unmark marked passed b = marked b := by simp [unmark, hp]
      rw [hun, List.append_assoc, List.idxOf_append_of_mem hpost, List.idxOf_append_of_notMem hp,
        List.idxOf_cons_ne _ (Ne.symm hne)]
      omega
  · have hrest : b ∈ rest := (List.mem_cons.1 hb).resolve_left hne
    have hlt := List.idxOf_lt_length_of_mem hrest
    have hun : unmark marked (a :: rest) b = false := by simp [unmark, hb]
    rw [hun, hall b hb, if_pos rfl, if_neg Bool.false_ne_true, List.idxOf_append_of_mem hrest,
      List.idxOf_cons_ne _ (Ne.symm hne)]
    simp only [List.length_cons] at hcap
    omega

/-! ### Two laps -/

section Lapped

variable {marked marked' : α → Bool} {seen seen' : α → Prop} {queue passed rest : List α} {a b : α}

/-- How far the sweep has come since the item `a` was put at the back. While `a` is marked, an item
behind it has been seen since or is without its mark; when `a` has lost its mark, that holds of the
items before it, and those behind it have been seen. -/
def Lapped (marked : α → Bool) (seen : α → Prop) (queue : List α) (a : α) : Prop :=
  ∃ front back, queue = front ++ a :: back ∧
    (marked a = true → ∀ x ∈ back, seen x ∨ marked x = false) ∧
    (marked a = false → (∀ x ∈ front, seen x ∨ marked x = false) ∧ ∀ x ∈ back, seen x)

omit [DecidableEq α] in
/-- An item is at one place of a queue. -/
lemma split_unique {front back front' back' : List α} (hnd : (front ++ a :: back).Nodup)
    (h : front ++ a :: back = front' ++ a :: back') : front = front' ∧ back = back' := by
  have hnot : a ∉ front ∧ a ∉ back := by
    have hmid := List.nodup_middle.1 hnd
    exact not_or.1 fun hmem => (List.nodup_cons.1 hmid).1 (List.mem_append.2 hmem)
  obtain ⟨hf, -, hb⟩ := (List.append_cons_inj_of_notMem hnot.1 hnot.2).1 h
  exact ⟨hf, hb⟩

omit [DecidableEq α] in
/-- An item is put at the back. -/
lemma Lapped.new (ha : marked a = true) : Lapped marked seen (queue ++ [a]) a :=
  ⟨queue, [], rfl, fun _ x hx => (by cases hx), fun hm => (by simp [ha] at hm)⟩

omit [DecidableEq α] in
/-- Another one is put behind it. -/
lemma Lapped.push (h : Lapped marked seen queue a) (hb : seen b) :
    Lapped marked seen (queue ++ [b]) a := by
  obtain ⟨front, back, rfl, hmarked, hunmarked⟩ := h
  refine ⟨front, back ++ [b], by simp, fun hm x hx => ?_, fun hm => ⟨(hunmarked hm).1, fun x hx => ?_⟩⟩
  · rcases List.mem_append.1 hx with hx | hx
    · exact hmarked hm x hx
    · rw [List.mem_singleton.1 hx]
      exact .inl hb
  · rcases List.mem_append.1 hx with hx | hx
    · exact (hunmarked hm).2 x hx
    · rw [List.mem_singleton.1 hx]
      exact hb

omit [DecidableEq α] in
/-- Items may be marked when they are seen. -/
lemma Lapped.mono (h : Lapped marked seen queue a) (hseen : ∀ x ∈ queue, seen x → seen' x)
    (hmarks : ∀ x ∈ queue, marked' x = true → marked x = true ∨ seen' x)
    (ha : marked a = true → marked' a = true) : Lapped marked' seen' queue a := by
  obtain ⟨front, back, rfl, hmarked, hunmarked⟩ := h
  have hopen : ∀ x ∈ front ++ a :: back, seen x ∨ marked x = false → seen' x ∨ marked' x = false := by
    rintro x hx (hs | hm)
    · exact .inl (hseen x hx hs)
    · by_contra hnot
      rw [not_or, Bool.not_eq_false] at hnot
      rcases hmarks x hx hnot.2 with hm' | hs
      · rw [hm] at hm'
        cases hm'
      · exact hnot.1 hs
  have hback : ∀ x ∈ back, x ∈ front ++ a :: back := by simp +contextual
  refine ⟨front, back, rfl, fun _ x hx => hopen x (hback x hx) ?_, fun hm' => ?_⟩
  · cases hm : marked a with
    | true => exact hmarked hm x hx
    | false => exact .inl ((hunmarked hm).2 x hx)
  · cases hm : marked a with
    | true =>
      rw [ha hm] at hm'
      cases hm'
    | false =>
      obtain ⟨hf, hb⟩ := hunmarked hm
      exact ⟨fun x hx => hopen x (List.mem_append_left _ hx) (hf x hx),
        fun x hx => hseen x (hback x hx) (hb x hx)⟩

omit [DecidableEq α] in
/-- Other items may be taken out. -/
lemma Lapped.sublist {part : List α} (h : Lapped marked seen queue a) (hsub : part.Sublist queue)
    (hnd : queue.Nodup) (ha : a ∈ part) : Lapped marked seen part a := by
  obtain ⟨front, back, rfl, hmarked, hunmarked⟩ := h
  have hmid := List.nodup_cons.1 (List.nodup_middle.1 hnd)
  obtain ⟨l, l', rfl, hl, hl'⟩ := List.sublist_append_iff.1 hsub
  have hal : a ∉ l := fun hmem => hmid.1 (List.mem_append_left _ (hl.subset hmem))
  have hal' : a ∈ l' := (List.mem_append.1 ha).resolve_left hal
  rcases List.sublist_cons_iff.1 hl' with hback | ⟨l', rfl, hback⟩
  · exact absurd (List.mem_append_right _ (hback.subset hal')) hmid.1
  · exact ⟨l, l', rfl, fun hm x hx => hmarked hm x (hback.subset hx), fun hm =>
      ⟨fun x hx => (hunmarked hm).1 x (hl.subset hx),
        fun x hx => (hunmarked hm).2 x (hback.subset hx)⟩⟩

variable {fuel : ℕ} (hnd : queue.Nodup) (hf : queue.length < fuel)
  (h : sweep fuel marked queue = some (b, passed, rest)) (hl : Lapped marked seen queue a)
include hnd hf h hl

/-- **An item is chosen after two laps**: all others have been seen since it was put at the back. -/
theorem Lapped.chosen (hab : b = a) : ∀ x ∈ queue, x ≠ a → seen x := by
  subst hab
  obtain ⟨front, back, rfl, hmarked, hunmarked⟩ := hl
  intro x hx hne
  rcases sweep_cases hnd hf h with ⟨post, heq, -, hm, hunm⟩ | ⟨-, heq, hall⟩
  · -- the items passed over had their marks, so they have been seen
    obtain ⟨rfl, rfl⟩ := split_unique hnd heq
    obtain ⟨hfront, hback⟩ := hunmarked hunm
    rcases List.mem_append.1 hx with hx | hx
    · exact (hfront x hx).resolve_right (by simp [hm x hx])
    · exact hback x ((List.mem_cons.1 hx).resolve_left hne)
  · -- all had their marks, and they were behind
    obtain ⟨rfl, rfl⟩ := split_unique hnd (heq.trans (List.nil_append _).symm)
    have hback := (List.mem_cons.1 hx).resolve_left hne
    exact (hmarked (hall b List.mem_cons_self) x hback).resolve_right (by simp [hall x hx])

/-- **A sweep that chooses another item**, which is seen then, takes the item on. -/
theorem Lapped.sweep (hab : b ≠ a) (hb : seen b) :
    Lapped (unmark marked passed) seen (rest ++ [b]) a := by
  obtain ⟨front, back, rfl, hmarked, hunmarked⟩ := hl
  rcases sweep_cases hnd hf h with ⟨post, heq, rfl, hm, -⟩ | ⟨rfl, heq, hall⟩
  · have hpassed : ∀ x ∈ passed, seen x ∨ unmark marked passed x = false :=
      fun x hx => .inr (by simp [unmark, hx])
    -- what is not marked does not get a mark
    have hopen : ∀ {x}, seen x ∨ marked x = false → seen x ∨ unmark marked passed x = false :=
      fun hx => hx.imp_right fun hm => by simp [unmark, hm]
    have hmem : a ∈ passed ∨ a ∈ post := by
      have ha : a ∈ passed ++ b :: post := by rw [← heq]; simp
      simpa [Ne.symm hab] using ha
    rcases hmem with ha | ha
    · -- it loses its mark, and a lap begins
      have hun : unmark marked passed a = false := by simp [unmark, ha]
      obtain ⟨before, after, hsplit⟩ := List.append_of_mem ha
      obtain ⟨rfl, rfl⟩ : front = before ∧ back = after ++ b :: post :=
        split_unique hnd (by rw [heq, hsplit, List.append_assoc]; rfl)
      have hback := hmarked (hm a ha)
      refine ⟨post ++ front, after ++ [b], by simp [hsplit], fun h => (by simp [hun] at h), fun _ =>
        ⟨fun x hx => ?_, fun x hx => ?_⟩⟩
      · rcases List.mem_append.1 hx with hx | hx
        · exact hopen (hback x (by simp [hx]))
        · exact hpassed x (by simp [hsplit, hx])
      · rcases List.mem_append.1 hx with hx | hx
        · exact (hback x (by simp [hx])).resolve_right (by simp [hm x (by simp [hsplit, hx])])
        · rw [List.mem_singleton.1 hx]
          exact hb
    · obtain ⟨before, after, rfl⟩ := List.append_of_mem ha
      obtain ⟨rfl, rfl⟩ : front = passed ++ b :: before ∧ back = after :=
        split_unique hnd (by rw [heq, List.append_assoc]; rfl)
      have hnot : a ∉ passed := by
        intro hp
        have hmid := List.nodup_middle.1 hnd
        exact (List.nodup_cons.1 hmid).1 (by simp [hp])
      have hun : unmark marked passed a = marked a := by simp [unmark, hnot]
      rw [List.append_assoc, List.append_assoc]
      refine ⟨before, back ++ (passed ++ [b]), rfl, fun h x hx => ?_, fun h =>
        ⟨fun x hx => hopen ((hunmarked (hun ▸ h)).1 x (by simp [hx])), fun x hx => ?_⟩⟩
      · rw [hun] at h
        rcases List.mem_append.1 hx with hx | hx
        · exact hopen (hmarked h x hx)
        · rcases List.mem_append.1 hx with hx | hx
          · exact hpassed x hx
          · rw [List.mem_singleton.1 hx]
            exact .inl hb
      · rw [hun] at h
        obtain ⟨hfront, hback⟩ := hunmarked h
        rcases List.mem_append.1 hx with hx | hx
        · exact hback x hx
        · rcases List.mem_append.1 hx with hx | hx
          · exact (hfront x (by simp [hx])).resolve_right (by simp [hm x hx])
          · rw [List.mem_singleton.1 hx]
            exact hb
  · -- all lose their marks
    have hun : ∀ x ∈ front ++ a :: back, unmark marked (front ++ a :: back) x = false :=
      fun x hx => by simp only [unmark, hx, not_true_eq_false, decide_false, Bool.and_false]
    have hback := hmarked (hall a (by simp))
    cases front with
    | nil => exact absurd (List.cons.inj heq).1 (Ne.symm hab)
    | cons c front =>
      obtain ⟨rfl, rfl⟩ := List.cons.inj heq
      refine ⟨front, back ++ [c], by simp, fun h => ?_, fun _ => ⟨fun x hx => ?_, fun x hx => ?_⟩⟩
      · rw [hun a (by simp)] at h
        cases h
      · exact .inr (hun x (by simp [hx]))
      · rcases List.mem_append.1 hx with hx | hx
        · exact (hback x hx).resolve_right (by simp [hall x (by simp [hx])])
        · rw [List.mem_singleton.1 hx]
          exact hb

end Lapped

end VmPager.Lib.SecondChance
