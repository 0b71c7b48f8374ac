import SchemaLedger.Proofs.Store.Contract

/-! # Claims and rows under the contract

What every permitted change of a view keeps: the work of the other transactions, the rows of a
ledger whose statements delete none, and the rule that an ID has one claimant. -/

namespace SchemaLedger.Store

variable {effect : Effect} {call : Call} {answer : call.Answer} {v v' : View}

/-- What a call may make of a view, whatever is answered. -/
inductive Change (effect : Effect) (v : View) : Call → View → Prop
  | same {call : Call} : Change effect v call v
  | opened {tx} (fresh : v.opened tx = none) : Change effect v .begin (v.alter tx (some .empty))
  | claimed {tx id slug work} (free : ¬ v.Taken tx id) (mine : v.opened tx = some work) :
    Change effect v (.claim tx id slug) (v.alter tx (some (work.claim ⟨id, slug⟩)))
  | performed {tx sql work} (mine : v.opened tx = some work) :
    Change effect v (.executeIn tx sql) (v.alter tx (some (work.perform sql)))
  | closed {call : Call} {tx : Tx} (own : call.tx? = some tx) : Change effect v call (v.alter tx none)
  | ran {sql after} (rows : effect.alone sql v.ledger after) (spared : v.Spared none v.ledger after) :
    Change effect v (.execute sql)
      { v with ledger := after, committed := v.committed ++ [.direct sql] }
  | committed {tx work after} (mine : v.opened tx = some work)
    (rows : effect.Chain work.bodies (v.ledger ++ work.claims) after)
    (spared : v.Spared (some tx) (v.ledger ++ work.claims) after) :
    Change effect v (.commit tx)
      { v.alter tx none with ledger := after, committed := v.committed ++ [work] }

theorem Permits.change (h : Permits effect call v answer v') : Change effect v call v' := by
  cases call with
  | applied => cases answer with
      | ok rows => obtain ⟨_, rfl⟩ := h; exact .same
      | error error => cases h; exact .same
  | execute sql => cases answer with
      | ok => obtain ⟨after, hrows, hspared, rfl⟩ := h; exact .ran hrows hspared
      | error error => cases h; exact .same
  | begin => cases answer with
      | ok tx => obtain ⟨hfresh, rfl⟩ := h; exact .opened hfresh
      | error error => cases h; exact .same
  | claim tx id slug => cases answer with
      | ok => obtain ⟨hfree, work, hwork, rfl⟩ := h; exact .claimed hfree hwork
      | error error => cases h; exact .same
  | executeIn tx sql => cases answer with
      | ok => obtain ⟨work, hwork, rfl⟩ := h; exact .performed hwork
      | error error => cases h; exact .same
  | commit tx => cases answer with
      | ok =>
          obtain ⟨work, after, hwork, hrows, hspared, rfl⟩ := h
          exact .committed hwork hrows hspared
      | error error => cases h; exact .closed rfl
  | rollback tx => cases h; exact .closed rfl

namespace Change

/-- A call touches no other transaction than its own. -/
theorem frame (h : Change effect v call v') {tx : Tx} {work : Work} (other : call.tx? ≠ some tx)
    (hopen : v.opened tx = some work) : v'.opened tx = some work := by
  have hne : ∀ {own : Tx}, call.tx? = some own → tx ≠ own := by
    intro own hown heq
    exact other (heq ▸ hown)
  cases h with
  | same | ran => exact hopen
  | opened hfresh =>
      rw [View.alter_opened_of_ne, hopen]
      rintro rfl
      rw [hfresh] at hopen
      cases hopen
  | claimed | performed => rw [View.alter_opened_of_ne v _ (hne rfl), hopen]
  | closed hown => rw [View.alter_opened_of_ne v _ (hne hown), hopen]
  | committed => exact (View.alter_opened_of_ne v none (hne rfl)).trans hopen

end Change

/-- What a call makes to last deletes no rows. -/
def Call.Keeps (effect : Effect) (v : View) : Call → Prop
  | .execute sql => Effect.Keeps (effect.alone sql)
  | .commit tx =>
    ∀ work, v.opened tx = some work → ∀ sql ∈ work.bodies, Effect.Keeps (effect.inside sql)
  | _ => True

/-- Rows stay in the ledger if nothing that lasts deletes any. -/
theorem Change.grows (h : Change effect v call v') (keeps : call.Keeps effect v) :
    v.ledger ⊆ v'.ledger := by
  cases h with
  | same | opened | claimed | performed | closed => exact List.Subset.refl _
  | ran hrows _ => exact keeps v.ledger _ hrows
  | committed hmine hrows _ =>
      exact List.Subset.trans (List.subset_append_left _ _)
        (Effect.chain_keeps (keeps _ hmine) hrows)

namespace View

theorem Recorded.mono {id : Ident} (h : v.Recorded id) (grows : v.ledger ⊆ v'.ledger) :
    v'.Recorded id := by
  obtain ⟨claim, hclaim, hid⟩ := h
  exact ⟨claim, grows hclaim, hid⟩

theorem holds_alter {tx other : Tx} {work? : Option Work} {id : Ident} :
    (v.alter tx work?).Holds other id ↔
      if other = tx then ∃ work, work? = some work ∧ ∃ claim ∈ work.claims, claim.id = id
      else v.Holds other id := by
  by_cases h : other = tx
  · subst h
    simp only [Holds, alter_opened_self, if_true]
  · simp only [Holds, alter_opened_of_ne v work? h, h, if_false]

theorem holds_of_alter_none {tx other : Tx} {id : Ident} (h : (v.alter tx none).Holds other id) :
    v.Holds other id ∧ other ≠ tx := by
  rw [holds_alter] at h
  by_cases heq : other = tx
  · rw [if_pos heq] at h
    obtain ⟨work, hwork, _⟩ := h
    cases hwork
  · rw [if_neg heq] at h
    exact ⟨h, heq⟩

theorem holds_of_alter_some {tx other : Tx} {id : Ident} {work new : Work}
    (hwork : v.opened tx = some work) (hclaims : new.claims ⊆ work.claims)
    (h : (v.alter tx (some new)).Holds other id) : v.Holds other id := by
  rw [holds_alter] at h
  by_cases heq : other = tx
  · rw [if_pos heq] at h
    obtain ⟨found, hfound, claim, hclaim, hid⟩ := h
    cases hfound
    exact ⟨work, heq ▸ hwork, claim, hclaims hclaim, hid⟩
  · rwa [if_neg heq] at h

theorem holds_of_alter_claim {tx other : Tx} {id new : Ident} {slug : String} {work : Work}
    (hwork : v.opened tx = some work)
    (h : (v.alter tx (some (work.claim ⟨new, slug⟩))).Holds other id) :
    v.Holds other id ∨ (other = tx ∧ id = new) := by
  rw [holds_alter] at h
  by_cases heq : other = tx
  · rw [if_pos heq] at h
    obtain ⟨found, hfound, claim, hclaim, rfl⟩ := h
    cases hfound
    rcases List.mem_append.mp hclaim with hclaim | hclaim
    · exact .inl ⟨work, heq ▸ hwork, claim, hclaim, rfl⟩
    · rw [List.mem_singleton.mp hclaim]
      exact .inr ⟨heq, rfl⟩
  · rw [if_neg heq] at h
    exact .inl h

/-! ## One claimant -/

/-- What an open transaction holds is neither recorded nor held by another one. -/
def Exclusive (v : View) : Prop := ∀ tx id, v.Holds tx id → ¬ v.Taken tx id

theorem Exclusive.anti (h : v.Exclusive) (rows : v'.ledger = v.ledger)
    (holds : ∀ tx id, v'.Holds tx id → v.Holds tx id) : v'.Exclusive := by
  intro tx id hheld htaken
  refine h tx id (holds tx id hheld) ?_
  rcases htaken with ⟨claim, hclaim, hid⟩ | ⟨other, hother, hbeside⟩
  · exact .inl ⟨claim, rows ▸ hclaim, hid⟩
  · exact .inr ⟨other, hother, holds other id hbeside⟩

/-- Rows that statements leave behind are old, or claimed by their own transaction, or clear of
what the others hold. -/
theorem Exclusive.rows (h : v.Exclusive) (tx? : Option Tx) {claims after : List Claim}
    (own : ∀ claim ∈ claims, ∃ tx, tx? = some tx ∧ v.Holds tx claim.id)
    (spared : v.Spared tx? (v.ledger ++ claims) after)
    {other : Tx} {id : Ident} (hother : tx? ≠ some other) (hheld : v.Holds other id) :
    ¬ ∃ claim ∈ after, claim.id = id := by
  rintro ⟨claim, hclaim, rfl⟩
  rcases spared claim hclaim with hbefore | hclear
  · rcases List.mem_append.mp hbefore with hledger | hown
    · exact h other claim.id hheld (.inl ⟨claim, hledger, rfl⟩)
    · obtain ⟨tx, htx, hmine⟩ := own claim hown
      refine h other claim.id hheld (.inr ⟨tx, ?_, hmine⟩)
      intro heq
      exact hother (htx.trans heq.symm)
  · exact hclear ⟨other, hother, hheld⟩

theorem Exclusive.claim (h : v.Exclusive) {tx : Tx} {id : Ident} {slug : String} {work : Work}
    (free : ¬ v.Taken tx id) (hwork : v.opened tx = some work) :
    (v.alter tx (some (work.claim ⟨id, slug⟩))).Exclusive := by
  intro one other hheld htaken
  rcases holds_of_alter_claim hwork hheld with hold | ⟨rfl, rfl⟩
  · rcases htaken with hrecorded | ⟨second, hsecond, hbeside⟩
    · exact h one other hold (.inl hrecorded)
    · rcases holds_of_alter_claim hwork hbeside with hbeside | ⟨rfl, rfl⟩
      · exact h one other hold (.inr ⟨second, hsecond, hbeside⟩)
      · exact free (.inr ⟨one, fun heq => hsecond heq.symm, hold⟩)
  · rcases htaken with hrecorded | ⟨second, hsecond, hbeside⟩
    · exact free (.inl hrecorded)
    · rcases holds_of_alter_claim hwork hbeside with hbeside | ⟨rfl, _⟩
      · exact free (.inr ⟨second, hsecond, hbeside⟩)
      · exact hsecond rfl

end View

theorem Change.exclusive (h : Change effect v call v') (hv : v.Exclusive) : v'.Exclusive := by
  cases h with
  | same => exact hv
  | @opened tx hfresh =>
      refine hv.anti rfl ?_
      intro other id hheld
      rw [View.holds_alter] at hheld
      split at hheld
      · obtain ⟨work, hwork, claim, hclaim, _⟩ := hheld
        cases hwork
        cases hclaim
      · exact hheld
  | claimed hfree hmine => exact hv.claim hfree hmine
  | @performed tx sql work hmine =>
      refine hv.anti rfl ?_
      intro other id hheld
      have hclaims : (work.perform sql).claims ⊆ work.claims := List.Subset.refl work.claims
      exact View.holds_of_alter_some hmine hclaims hheld
  | closed => exact hv.anti rfl fun _ _ hheld => (View.holds_of_alter_none hheld).1
  | ran _ hspared =>
      intro tx id hheld htaken
      rcases htaken with hrecorded | hbeside
      · have hnone : ∀ claim ∈ ([] : List Claim), ∃ own, none = some own ∧ v.Holds own claim.id :=
          nofun
        refine hv.rows none hnone ?_ nofun hheld hrecorded
        rwa [List.append_nil]
      · exact hv tx id hheld (.inr hbeside)
  | @committed tx work after hmine _ hspared =>
      have hown : ∀ claim ∈ work.claims, ∃ own, some tx = some own ∧ v.Holds own claim.id :=
        fun claim hclaim => ⟨tx, rfl, work, hmine, claim, hclaim, rfl⟩
      intro one id hheld htaken
      obtain ⟨hheld, hne⟩ := View.holds_of_alter_none (v := v) hheld
      rcases htaken with hrecorded | ⟨second, hsecond, hbeside⟩
      · refine hv.rows (some tx) hown hspared ?_ hheld hrecorded
        exact fun heq => hne (Option.some.inj heq).symm
      · exact hv one id hheld
          (.inr ⟨second, hsecond, (View.holds_of_alter_none (v := v) hbeside).1⟩)

end SchemaLedger.Store
