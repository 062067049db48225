import Mathlib.Data.List.Basic

/-!
# Queues of tagged messages

A mailbox takes messages in at its end and gives out, for a tag, the first
message that carries it.  The operations may refuse: `put` when there is no room,
`take` when it fails.  The messages of one tag are a queue of their own, `ofTag`:
`put` appends to it and `take` removes its head, whatever the mailbox holds of
other tags.
-/

namespace VpnRouter.Lib

/-- A mailbox with states `σ`, messages `α` and their tags `τ`; each operation is
fixed by what it does to the contents. -/
structure Mailbox (σ α τ : Type*) (tag : α → τ) where
  contents : σ → List α
  put : σ → α → Option σ
  take : σ → τ → Option (α × σ)
  contents_put : ∀ {s s' a}, put s a = some s' → contents s' = contents s ++ [a]
  contents_take : ∀ {s s' a t}, take s t = some (a, s') →
    ∃ older newer, contents s = older ++ a :: newer ∧ contents s' = older ++ newer ∧
      tag a = t ∧ ∀ b ∈ older, tag b ≠ t
  take_isSome : ∀ {s a}, a ∈ contents s → (take s (tag a)).isSome

namespace Mailbox

section OneTag

variable {σ α τ : Type*} [DecidableEq τ] {tag : α → τ} (K : Mailbox σ α τ tag)

/-- The messages of one tag, oldest first. -/
def ofTag (s : σ) (t : τ) : List α := (K.contents s).filter fun a => tag a = t

theorem ofTag_put {s s' : σ} {a : α} (h : K.put s a = some s') :
    K.ofTag s' (tag a) = K.ofTag s (tag a) ++ [a] := by
  rw [ofTag, K.contents_put h, List.filter_append]
  simp [ofTag]

theorem ofTag_take {s s' : σ} {a : α} {t : τ} (h : K.take s t = some (a, s')) :
    K.ofTag s t = a :: K.ofTag s' t := by
  obtain ⟨older, newer, hs, hs', htag, holder⟩ := K.contents_take h
  have hnone : older.filter (fun b => tag b = t) = [] := by
    rw [List.filter_eq_nil_iff]
    intro b hb
    simpa using holder b hb
  rw [ofTag, ofTag, hs, hs', List.filter_append, List.filter_append, hnone,
    List.filter_cons_of_pos (by simpa using htag), List.nil_append, List.nil_append]

theorem take_isSome_of_ofTag {s : σ} {t : τ} (h : K.ofTag s t ≠ []) : (K.take s t).isSome := by
  obtain ⟨a, ha⟩ := List.exists_mem_of_ne_nil _ h
  obtain ⟨hmem, htag⟩ := List.mem_filter.mp ha
  have hta : tag a = t := by simpa using htag
  exact hta ▸ K.take_isSome hmem

end OneTag

/-! ## The mailbox without a bound -/

section Unbounded

variable {α τ : Type*} [DecidableEq τ] (tag : α → τ)

/-- Take the first message of a tag out of a list. -/
def takeFirst (t : τ) : List α → Option (α × List α)
  | [] => none
  | a :: as => if tag a = t then some (a, as) else (takeFirst t as).map fun r => (r.1, a :: r.2)

variable {tag}

theorem takeFirst_split {t : τ} {as rest : List α} {a : α}
    (h : takeFirst tag t as = some (a, rest)) :
    ∃ older newer, as = older ++ a :: newer ∧ rest = older ++ newer ∧
      tag a = t ∧ ∀ b ∈ older, tag b ≠ t := by
  induction as generalizing rest with
  | nil => simp [takeFirst] at h
  | cons b as ih =>
      rw [takeFirst] at h
      by_cases hb : tag b = t
      · rw [if_pos hb] at h
        obtain ⟨rfl, rfl⟩ := Prod.mk.inj (Option.some.inj h)
        exact ⟨[], as, rfl, rfl, hb, by simp⟩
      · rw [if_neg hb] at h
        obtain ⟨⟨c, left⟩, hleft, hr⟩ := Option.map_eq_some_iff.mp h
        obtain ⟨rfl, rfl⟩ := Prod.mk.inj hr
        obtain ⟨older, newer, hsplit, hrest, htag, holder⟩ := ih hleft
        refine ⟨b :: older, newer, ?_, ?_, htag, ?_⟩
        · rw [hsplit, List.cons_append]
        · rw [hrest, List.cons_append]
        · intro d hd
          rcases List.mem_cons.mp hd with rfl | hd
          · exact hb
          · exact holder d hd

theorem takeFirst_isSome {as : List α} {a : α} (h : a ∈ as) :
    (takeFirst tag (tag a) as).isSome := by
  induction as with
  | nil => simp at h
  | cons b as ih =>
      rw [takeFirst]
      by_cases hb : tag b = tag a
      · rw [if_pos hb]
        rfl
      · rw [if_neg hb, Option.isSome_map]
        rcases List.mem_cons.mp h with rfl | h
        · exact absurd rfl hb
        · exact ih h

variable (tag)

/-- The mailbox whose state is its contents. -/
def unbounded : Mailbox (List α) α τ tag where
  contents as := as
  put as a := some (as ++ [a])
  take as t := takeFirst tag t as
  contents_put h := (Option.some.inj h).symm
  contents_take h := takeFirst_split h
  take_isSome h := takeFirst_isSome h

end Unbounded

end Mailbox

end VpnRouter.Lib
