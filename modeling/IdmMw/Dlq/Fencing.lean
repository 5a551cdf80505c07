import IdmMw.Dlq.Lease

/-!
# Who ends a claim

While the worker with the most recent claim of an item is still at it, and the claim is younger than
the lease, no other claim of the item should be granted (`ExclusiveClaims`).

* `HoldsLatest`, `Running`;
* `Book`: the book that the queue keeps agrees with the table;
* `exclusiveClaims`: the law holds unless a retry of the item fails in the hands of another worker.

`markRetryFailed` frees the item whoever calls it. A worker that comes back after its lease has
expired so ends the claim of its successor.
-/

namespace IdmMw

open Async

variable {ι : Type} [DecidableEq ι] {app : App} {d : DlqState ι} {es : List (DlqEntry ι)}
  {p : DlqPool ι} {id : String}

/-! ### The law -/

/-- Slot `i` has the item in hand under the most recent claim of it. -/
def HoldsLatest (s : DlqState ι) (i : ι) (id : String) : Prop :=
  0 < s.claims id ∧ s.hand i = some ⟨id, s.claims id⟩

/-- Slot `i` has not settled. -/
def Running (p : DlqPool ι) (i : ι) : Prop :=
  ∃ r, p.thread i = some r ∧ ∀ x, r ≠ .settle x

/-- A claim is granted while a slot is at the item under the most recent claim only if that claim is
older than the lease. -/
def ExclusiveClaims (es : List (DlqEntry ι)) : Prop :=
  ∀ e ∈ es, ∀ id c i claimedAt, ClaimOf id c e.label → Running e.before i →
    HoldsLatest e.before.shared i id → e.before.shared.claimedAt id = some claimedAt →
    claimedAt < c.expiredBefore

/-- If the step frees an item after a failed retry, then no other slot is at the item under the most
recent claim. -/
def FailsAlone (e : DlqEntry ι) : Prop :=
  ∀ i j id data, e.label = .call i ⟨.dlqItemUpdate id data, .ok ()⟩ → data.status = .pending →
    j ≠ i → Running e.before j → ¬ HoldsLatest e.before.shared j id

/-- If the step delivers the retry message of the most recent claim of an item, then no failed retry
has ended that claim. -/
def DeliversUnended (e : DlqEntry ι) : Prop :=
  ∀ i id item, e.label = .start i → HoldsLatest e.after.shared i id →
    e.after.shared.items id = some item → item.status ≠ .pending

/-! ### The book -/

/-- The book agrees with the table. -/
structure Book (s : DlqState ι) : Prop where
  /-- an item that is being retried is locked since its most recent claim -/
  retrying : ∀ id item, s.items id = some item → item.status = .retrying →
    item.lockedAt = s.claimedAt id
  /-- only items of the table are claimed -/
  dated : ∀ id, 0 < s.claims id → ∃ item, s.items id = some item
  /-- no slot works under a claim that is still to come -/
  hand : ∀ i hand, s.hand i = some hand → hand.claim ≤ s.claims hand.id
  /-- nor will one after a message -/
  topic : ∀ raw hand, (raw, some hand) ∈ s.topic → hand.claim ≤ s.claims hand.id

omit [DecidableEq ι] in
theorem book_initial (items : String → Option DlqItem) (clock : Time) :
    Book (.initial items clock : DlqState ι) where
  retrying id item hitem _ := by
    change items id = some item at hitem
    simp [DlqState.initial, hitem]
  dated _ h := absurd h (by simp [DlqState.initial])
  hand := by rintro _ _ ⟨⟩
  topic := by rintro _ _ ⟨⟩

theorem Book.effect {i : ι} {s s' : DlqState ι} {v : Ev} (hs : Book s) (h : DlqEffect i s v s')
    (hcreate : ∀ data, v = ⟨.dlqItemCreate data, .ok ()⟩ → data.status ≠ .retrying)
    (hupdate : ∀ id data, v = ⟨.dlqItemUpdate id data, .ok ()⟩ → data.status ≠ .retrying) :
    Book s' := by
  cases h with
  | none => exact hs
  | @create id' data hid =>
    refine ⟨fun id item hitem hstatus => ?_, fun id hpos => ?_, hs.hand, hs.topic⟩
    · by_cases hne : id = id'
      · subst hne
        obtain rfl : data.item id = item := by simpa [DlqState.create] using hitem
        exact absurd hstatus (hcreate data rfl)
      · exact hs.retrying id item (by simpa [DlqState.create, hne] using hitem) hstatus
    · obtain ⟨item, hitem⟩ := hs.dated id hpos
      have hne : id ≠ id' := by
        rintro rfl
        rw [hid] at hitem
        cases hitem
      exact ⟨item, by simpa [DlqState.create, hne] using hitem⟩
  | @claim c item hitem hclaim =>
    have hle : ∀ id, s.claims id ≤ (s.claim i c item).claims id := by
      intro id
      by_cases hid : id = c.id <;> simp [DlqState.claim, hid]
    refine ⟨fun id item' hitem' hstatus => ?_, fun id hpos => ?_, fun j hand hhand => ?_, ?_⟩
    · by_cases hid : id = c.id
      · subst hid
        obtain rfl : item.claimed c = item' := by simpa [DlqState.claim] using hitem'
        simp [DlqState.claim, DlqItem.claimed]
      · have h := hs.retrying id item' (by simpa [DlqState.claim, hid] using hitem') hstatus
        simpa [DlqState.claim, hid] using h
    · by_cases hid : id = c.id
      · exact ⟨item.claimed c, by simp [DlqState.claim, hid]⟩
      · obtain ⟨item', hitem'⟩ := hs.dated id (by simpa [DlqState.claim, hid] using hpos)
        exact ⟨item', by simpa [DlqState.claim, hid] using hitem'⟩
    · by_cases hij : j = i
      · obtain rfl : (⟨c.id, s.claims c.id + 1⟩ : Hand) = hand := by
          simpa [DlqState.claim, hij] using hhand
        simp [DlqState.claim]
      · exact (hs.hand j hand (by simpa [DlqState.claim, hij] using hhand)).trans (hle hand.id)
    · exact fun raw hand hmem => (hs.topic raw hand hmem).trans (hle hand.id)
  | @update id' data item hitem =>
    refine ⟨fun id item' hitem' hstatus => ?_, fun id hpos => ?_, fun j hand hhand => ?_, hs.topic⟩
    · by_cases hid : id = id'
      · subst hid
        obtain rfl : item.updated data = item' := by simpa [DlqState.update] using hitem'
        exact absurd hstatus (hupdate id data rfl)
      · exact hs.retrying id item' (by simpa [DlqState.update, hid] using hitem') hstatus
    · by_cases hid : id = id'
      · exact ⟨item.updated data, by simp [DlqState.update, hid]⟩
      · obtain ⟨item', hitem'⟩ := hs.dated id hpos
        exact ⟨item', by simpa [DlqState.update, hid] using hitem'⟩
    · exact hs.hand j hand (hand_of_update hhand).1
  | @send topic raw =>
    refine ⟨hs.retrying, hs.dated, fun j hand hhand => ?_, fun raw' hand hmem => ?_⟩
    · by_cases hij : j = i
      · simp [DlqState.send, hij] at hhand
      · exact hs.hand j hand (by simpa [DlqState.send, hij] using hhand)
    · rcases List.mem_append.1 hmem with hmem | hmem
      · exact hs.topic raw' hand hmem
      · obtain ⟨-, hhand⟩ := Prod.mk.inj (List.mem_singleton.1 hmem)
        exact hs.hand i hand hhand.symm

theorem Book.start {i : ι} {s s' : DlqState ι} {r : Prog Unit} (hs : Book s)
    (h : DlqStart app i s r s') : Book s' := by
  cases h with
  | job =>
    refine ⟨hs.retrying, hs.dated, fun j hand hhand => ?_, hs.topic⟩
    by_cases hij : j = i
    · simp [hij] at hhand
    · exact hs.hand j hand (by simpa [hij] using hhand)
  | @deliver raw sent hmem =>
    refine ⟨hs.retrying, hs.dated, fun j hand hhand => ?_, hs.topic⟩
    by_cases hij : j = i
    · -- the hand of the sender, or a claim of no number
      subst hij
      have hhand : handOf app raw sent = some hand := by simpa using hhand
      unfold handOf at hhand
      obtain ⟨id, -, rfl⟩ := Option.map_eq_some_iff.1 hhand
      cases sent with
      | none => exact Nat.zero_le _
      | some sent =>
        dsimp only
        split
        · exact hs.topic raw sent hmem
        · exact Nat.zero_le _
    · exact hs.hand j hand (by simpa [hij] using hhand)

theorem book_of_exec {items : String → Option DlqItem} {clock : Time}
    (h : (dlqSystem ι app).Exec (.idle (.initial items clock)) es p) : Book p.shared := by
  refine h.invariant (I := fun p => Book p.shared) ?_ (book_initial items clock)
  intro e he hstep hbook
  have hcreate : ∀ {i data}, e.label = .call i ⟨.dlqItemCreate data, .ok ()⟩ →
      data.status = .pending := by
    intro i data hl
    obtain ⟨q, -, hok⟩ := request_ok h he hl
    exact hok
  obtain ⟨s, l, s'⟩ := e
  change (dlqSystem ι app).Step s l s' at hstep
  cases hstep with
  | @call i r k a x hi henv =>
    refine hbook.effect (DlqEnv.effect henv) ?_ ?_
    · intro data hv
      rw [hcreate (by rw [hv])]
      decide
    · intro id data hv
      exact (update_ok h he ⟨i, by rw [hv]⟩).1
  | start hi hstart => exact hbook.start hstart
  | tick ht =>
    cases ht
    exact ⟨hbook.retrying, hbook.dated, hbook.hand, hbook.topic⟩

/-! ### The law holds unless a retry fails in other hands -/

/-- No running slot holds the most recent claim of an item that awaits a retry. -/
def NoneHeldPending (p : DlqPool ι) : Prop :=
  ∀ i id item, Running p i → HoldsLatest p.shared i id → p.shared.items id = some item →
    item.status ≠ .pending

theorem noneHeldPending_step {d : DlqState ι} (h : (dlqSystem ι app).Exec (.idle d) es p)
    {e : DlqEntry ι} (he : e ∈ es) (hfails : FailsAlone e) (hdelivers : DeliversUnended e)
    (hbook : Book e.before.shared) (hinv : NoneHeldPending e.before) : NoneHeldPending e.after := by
  have hstep := h.step_of_mem he
  obtain ⟨s, l, s'⟩ := e
  change (dlqSystem ι app).Step s l s' at hstep
  intro i id item hrunning hlatest hitem
  obtain ⟨r, hthread, hrunning⟩ := hrunning
  cases hstep with
  | @call j q k a x hj henv =>
    have hbefore : Running s i := by
      by_cases hij : i = j
      · exact ⟨_, hij ▸ hj, by rintro x ⟨⟩⟩
      · exact ⟨r, by simpa [hij] using hthread, hrunning⟩
    obtain ⟨hpos, hhand⟩ := hlatest
    change x.items id = some item at hitem
    change 0 < x.claims id at hpos
    change x.hand i = some ⟨id, x.claims id⟩ at hhand
    cases DlqEnv.effect henv with
    | none => exact hinv i id item hbefore ⟨hpos, hhand⟩ hitem
    | @create id' data hid =>
      obtain ⟨item', hitem'⟩ := hbook.dated id hpos
      have hne : id ≠ id' := by
        rintro rfl
        rw [hid] at hitem'
        cases hitem'
      exact hinv i id item hbefore ⟨hpos, hhand⟩ (by simpa [DlqState.create, hne] using hitem)
    | @claim c item' hitem' hclaim =>
      by_cases hid : id = c.id
      · obtain rfl : item'.claimed c = item := by simpa [DlqState.claim, hid] using hitem
        rintro ⟨⟩
      · have hclaims : (s.shared.claim j c item').claims id = s.shared.claims id := by
          simp [DlqState.claim, hid]
        rw [hclaims] at hpos hhand
        have hij : i ≠ j := by
          rintro rfl
          simp [DlqState.claim, Ne.symm hid] at hhand
        exact hinv i id item hbefore ⟨hpos, by simpa [DlqState.claim, hij] using hhand⟩
          (by simpa [DlqState.claim, hid] using hitem)
    | @update id' data item' hitem' =>
      obtain ⟨hhand, hother⟩ := hand_of_update hhand
      by_cases hid : id = id'
      · subst hid
        obtain rfl : item'.updated data = item := by simpa [DlqState.update] using hitem
        intro hstatus
        exact hfails j i id data rfl hstatus (fun hij => hother hij rfl) hbefore ⟨hpos, hhand⟩
      · exact hinv i id item hbefore ⟨hpos, hhand⟩ (by simpa [DlqState.update, hid] using hitem)
    | @send topic raw =>
      have hij : i ≠ j := by
        rintro rfl
        simp [DlqState.send] at hhand
      exact hinv i id item hbefore ⟨hpos, by simpa [DlqState.send, hij] using hhand⟩ hitem
  | @start j q x hj hstart =>
    by_cases hij : i = j
    · subst hij
      exact hdelivers i id item rfl hlatest hitem
    · have hbefore : Running s i := ⟨r, by simpa [hij] using hthread, hrunning⟩
      obtain ⟨hpos, hhand⟩ := hlatest
      cases hstart <;>
        exact hinv i id item hbefore ⟨hpos, by simpa [hij] using hhand⟩ hitem
  | tick ht =>
    cases ht
    exact hinv i id item ⟨r, hthread, hrunning⟩ hlatest hitem

/-- While a slot is at an item under the most recent claim of it, the item is claimed only after the
lease: if no retry of it fails in the hands of others in the meantime, and no retry message is
delivered whose claim a failed retry has ended. -/
theorem exclusiveClaims {items : String → Option DlqItem} {clock : Time}
    (h : (dlqSystem ι app).Exec (.idle (.initial items clock)) es p)
    (hfails : ∀ e ∈ es, FailsAlone e) (hdelivers : ∀ e ∈ es, DeliversUnended e) :
    ExclusiveClaims es := by
  intro e he id c i claimedAt hl hrunning hlatest hclaimedAt
  obtain ⟨es₁, es₂, rfl⟩ := List.append_of_mem he
  obtain ⟨h₁, hstep, -⟩ := System.exec_middle_iff.1 h
  have hnone : NoneHeldPending e.before := by
    refine h.invariant_before (I := NoneHeldPending) (fun e he _ hinv => ?_) ?_ he
    · obtain ⟨es₁, es₂, hes⟩ := List.append_of_mem he
      rw [hes] at h
      have hbook := book_of_exec (System.exec_middle_iff.1 h).1
      rw [← hes] at h
      exact noneHeldPending_step h he (hfails e he) (hdelivers e he) hbook hinv
    · rintro i id item ⟨r, ⟨⟩, -⟩
  obtain ⟨item, hitem, hclaim, -⟩ := item_of_claim hstep hl
  have hpending := hnone i id item hrunning hlatest hitem
  obtain ⟨hopen, hstatus⟩ := hclaim
  have hretrying : item.status = .retrying := by
    cases hs : item.status with
    | pending => exact absurd hs hpending
    | retrying => rfl
    | skipped | resolved => simp [hs] at hopen
  have hlocked := (book_of_exec h₁).retrying id item hitem hretrying
  rw [hclaimedAt] at hlocked
  rcases hstatus with hstatus | hstatus | ⟨lockedAt, hstatus, hlt⟩
  · exact absurd hretrying hstatus
  · rw [hlocked] at hstatus
    cases hstatus
  · rw [hlocked] at hstatus
    cases hstatus
    exact hlt

/-- A claim under the default lease of 300 s, just after the lease of a claim at 0 has ended. -/
def lateClaim : DlqItemClaim where
  id := "item-1"
  now := 300001
  dateNow := 300001
  effectiveLeaseSeconds := 300
  lockedBy := "1"

theorem lateClaim_expiredBefore : lateClaim.expiredBefore = 1 := by
  norm_num [DlqItemClaim.expiredBefore, timeClip, lateClaim]

/-- An item is claimed again, after the lease, while the first claimer is still at it. -/
theorem exclusiveClaims_after_lease : ∃ es p,
    (dlqSystem Bool App.bare).Exec (.idle (.initial oneItem 0)) es p ∧
      (∃ e ∈ es, ClaimOf "item-1" lateClaim e.label ∧ Running e.before false ∧
        HoldsLatest e.before.shared false "item-1") ∧
      ExclusiveClaims es := by
  have h := System.reaches_refl (S := dlqSystem Bool App.bare)
    (P := fun e => FailsAlone e ∧ DeliversUnended e) (.idle (.initial oneItem 0))
  have h := h.snoc (.start (i := false) rfl (.job (.adminRetry "item-1")))
    ⟨by rintro _ _ _ _ ⟨⟩, by rintro _ _ _ ⟨⟩ ⟨h, -⟩; cases h⟩
  have h := h.snoc (.call (i := false) rfl .findTarget)
    ⟨by rintro _ _ _ _ ⟨⟩, by rintro _ _ _ ⟨⟩⟩
  have h := h.snoc (.call (i := false) rfl (.other (a := (.ok none : Except JsError (Option Column)))
    (by simp [Req.OnDlq]))) ⟨by rintro _ _ _ _ ⟨⟩, by rintro _ _ _ ⟨⟩⟩
  have h := h.snoc (.call (i := false) rfl .now) ⟨by rintro _ _ _ _ ⟨⟩, by rintro _ _ _ ⟨⟩⟩
  have h := h.snoc (.call (i := false) rfl .now) ⟨by rintro _ _ _ _ ⟨⟩, by rintro _ _ _ ⟨⟩⟩
  have h := h.snoc (.call (i := false) rfl (.claim rfl (DlqItem.claimable_iff.2 trivial)))
    ⟨by rintro _ _ _ _ ⟨⟩, by rintro _ _ _ ⟨⟩⟩
  have h := h.snoc (.tick (.clock (t := 300001) (by decide)))
    ⟨by rintro _ _ _ _ ⟨⟩, by rintro _ _ _ ⟨⟩⟩
  have h := h.snoc (.start (i := true) rfl (.job (.adminRetry "item-1")))
    ⟨by rintro _ _ _ _ ⟨⟩, by rintro _ _ _ ⟨⟩ ⟨-, h⟩; cases h⟩
  have h := h.snoc (.call (i := true) rfl .findTarget)
    ⟨by rintro _ _ _ _ ⟨⟩, by rintro _ _ _ ⟨⟩⟩
  have h := h.snoc (.call (i := true) rfl (.other (a := (.ok none : Except JsError (Option Column)))
    (by simp [Req.OnDlq]))) ⟨by rintro _ _ _ _ ⟨⟩, by rintro _ _ _ ⟨⟩⟩
  have h := h.snoc (.call (i := true) rfl .now) ⟨by rintro _ _ _ _ ⟨⟩, by rintro _ _ _ ⟨⟩⟩
  have h := h.snoc (.call (i := true) rfl .now) ⟨by rintro _ _ _ _ ⟨⟩, by rintro _ _ _ ⟨⟩⟩
  obtain ⟨es, h, hes⟩ := h
  have h := h.snoc (.call (i := true) rfl (.claim (c := lateClaim) rfl
    ⟨by decide, Or.inr (Or.inr ⟨0, rfl, by rw [lateClaim_expiredBefore]; decide⟩)⟩))
  refine ⟨_, _, h, ⟨_, List.mem_append_right _ (List.mem_singleton_self _), ⟨rfl, true, rfl⟩,
    ⟨_, rfl, by rintro x ⟨⟩⟩, by decide, rfl⟩, exclusiveClaims h (fun e he => ?_) fun e he => ?_⟩
  · rcases List.mem_append.1 he with he | he
    · exact (hes e he).1
    · rw [List.mem_singleton.1 he]
      rintro _ _ _ _ ⟨⟩
  · rcases List.mem_append.1 he with he | he
    · exact (hes e he).2
    · rw [List.mem_singleton.1 he]
      rintro _ _ _ ⟨⟩

/-- The lease of a first claimer expires, a second one claims the item, and then the first one fails:
a third one claims the item while the second has just begun. -/
theorem not_exclusiveClaims : ∃ es p,
    (dlqSystem (Fin 3) App.bare).Exec (.idle (.initial oneItem 0)) es p ∧ ¬ ExclusiveClaims es := by
  have h := System.Exec.nil (S := dlqSystem (Fin 3) App.bare) (.idle (.initial oneItem 0))
  have h := h.snoc (.start (i := 0) rfl (.job (.adminRetry "item-1")))
  have h := h.snoc (.call (i := 0) rfl .findTarget)
  have h := h.snoc (.call (i := 0) rfl (.other (a := (.ok none : Except JsError (Option Column)))
    (by simp [Req.OnDlq])))
  have h := h.snoc (.call (i := 0) rfl .now)
  have h := h.snoc (.call (i := 0) rfl .now)
  have h := h.snoc (.call (i := 0) rfl (.claim rfl (DlqItem.claimable_iff.2 trivial)))
  have h := h.snoc (.call (i := 0) rfl
    (.other (a := (.ok [] : Except JsError (List (DlqStatus × ℕ)))) (by simp [Req.OnDlq])))
  have h := h.snoc (.call (i := 0) rfl (.other (a := ()) (by simp [Req.OnDlq])))
  have h := h.snoc (.call (i := 0) rfl (.other (a := ()) (by simp [Req.OnDlq])))
  have h := h.snoc (.call (i := 0) rfl (.other (a := ()) (by simp [Req.OnDlq])))
  have h := h.snoc (.call (i := 0) rfl (.other (a := ()) (by simp [Req.OnDlq])))
  have h := h.snoc (.call (i := 0) rfl .findUnique)
  have h := h.snoc (.call (i := 0) rfl (.other (a := (some ⟨false, false⟩ : Option Connector))
    (by simp [Req.OnDlq])))
  have h := h.snoc (.call (i := 0) rfl (.other (a := (.ok none : Except JsError (Option Column)))
    (by simp [Req.OnDlq])))
  -- the connector takes longer than the lease, and a second administrator claims the item
  have h := h.snoc (.tick (.clock (t := 300001) (by decide)))
  have h := h.snoc (.start (i := 1) rfl (.job (.adminRetry "item-1")))
  have h := h.snoc (.call (i := 1) rfl .findTarget)
  have h := h.snoc (.call (i := 1) rfl (.other (a := (.ok none : Except JsError (Option Column)))
    (by simp [Req.OnDlq])))
  have h := h.snoc (.call (i := 1) rfl .now)
  have h := h.snoc (.call (i := 1) rfl .now)
  have h := h.snoc (.call (i := 1) rfl (.claim (c := lateClaim) rfl
    ⟨by decide, Or.inr (Or.inr ⟨0, rfl, by rw [lateClaim_expiredBefore]; decide⟩)⟩))
  -- the first connector call fails, and frees the item
  have h := h.snoc (.call (i := 0) rfl
    (.other (a := (.ok ⟨false, none, none⟩ : Except JsError ConnectorResult))
      (by simp [Req.OnDlq])))
  have h := h.snoc (.call (i := 0) rfl (.other (a := ()) (by simp [Req.OnDlq])))
  have h := h.snoc (.call (i := 0) rfl (.other (a := ()) (by simp [Req.OnDlq])))
  have h := h.snoc (.call (i := 0) rfl (.update rfl))
  -- a third administrator claims it at once
  have h := h.snoc (.start (i := 2) rfl (.job (.adminRetry "item-1")))
  have h := h.snoc (.call (i := 2) rfl .findTarget)
  have h := h.snoc (.call (i := 2) rfl (.other (a := (.ok none : Except JsError (Option Column)))
    (by simp [Req.OnDlq])))
  have h := h.snoc (.call (i := 2) rfl .now)
  have h := h.snoc (.call (i := 2) rfl .now)
  have h := h.snoc (.call (i := 2) rfl (.claim (c := lateClaim) rfl
    (DlqItem.claimable_iff.2 trivial)))
  refine ⟨_, _, h, fun hexclusive => ?_⟩
  have hlt := hexclusive _ (List.mem_append_right _ (List.mem_singleton_self _)) "item-1"
    lateClaim 1 300001 ⟨rfl, 2, rfl⟩ ⟨_, rfl, by rintro x ⟨⟩⟩ ⟨by decide, rfl⟩ rfl
  rw [lateClaim_expiredBefore] at hlt
  exact absurd hlt (by decide)

end IdmMw
