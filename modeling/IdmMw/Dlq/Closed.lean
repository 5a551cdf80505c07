import IdmMw.Dlq.InHand
import IdmMw.Dlq.Lease

/-!
# Closed items

A skipped or resolved item should stay as it is (`Absorbing`), and no retry should execute it
(`NeverExecutesClosed`).

* `absorbing_iff`: the claim of an item respects its status, so only the unconditional updates of
  `skip`, `resolve` and `markRetryFailed` change a closed item;
* `neverExecutesClosed`: a retry looks at the status once, when it claims the item. That is enough
  as long as no retry message is delivered after the item was closed, and no item is closed while a
  retry of it may still call the connector.
-/

namespace IdmMw

open Async

variable {ι : Type} [DecidableEq ι] {app : App} {d : DlqState ι} {es : List (DlqEntry ι)}
  {m p : DlqPool ι} {id : String} {item item' : DlqItem} {l : DlqLabel ι}

/-! ### Closed for good -/

/-- In the run `es` from `d`, no item that is skipped or resolved changes its status. -/
def Absorbing (app : App) (d : DlqState ι) (es : List (DlqEntry ι)) : Prop :=
  ∀ es₁ es₂ es₃ m n id item, es = es₁ ++ (es₂ ++ es₃) →
    (dlqSystem ι app).Exec (.idle d) es₁ m → (dlqSystem ι app).Exec m es₂ n →
    m.shared.items id = some item → item.status.Closed →
    ∃ item', n.shared.items id = some item' ∧ item'.status = item.status

/-- If the step is an update of a closed item, it sets the status that the item has. -/
def KeepsClosed (e : DlqEntry ι) : Prop :=
  ∀ id data item, UpdateOf id data e.label → e.before.shared.items id = some item →
    item.status.Closed → data.status = item.status

/-- A claim of a closed item is not granted. -/
theorem DlqItem.Claimable.not_closed {c : DlqItemClaim} (h : item.Claimable c) :
    ¬ item.status.Closed := by
  rintro (hstatus | hstatus) <;> exact h.1 (by simp [hstatus])

omit [DecidableEq ι] in
theorem ItemStep.closed (h : ItemStep id item l item') (hclosed : item.status.Closed)
    (hkeeps : ∀ data, UpdateOf id data l → data.status = item.status) :
    item'.status = item.status := by
  cases h with
  | stays _ _ => rfl
  | claimed _ hclaim => exact absurd hclosed hclaim.not_closed
  | updated hl => exact hkeeps _ hl

theorem closed_of_exec (h : (dlqSystem ι app).Exec m es p) (hkeeps : ∀ e ∈ es, KeepsClosed e)
    (hitem : m.shared.items id = some item) (hclosed : item.status.Closed) :
    ∃ item', p.shared.items id = some item' ∧ item'.status = item.status := by
  refine h.invariant
    (I := fun p => ∃ item', p.shared.items id = some item' ∧ item'.status = item.status) ?_
    ⟨item, hitem, rfl⟩
  rintro e he hstep ⟨item₁, hitem₁, hstatus⟩
  obtain ⟨item₂, hitem₂, hitemStep⟩ := item_step hstep hitem₁
  have hclosed₁ : item₁.status.Closed := hstatus ▸ hclosed
  refine ⟨item₂, hitem₂, (hitemStep.closed hclosed₁ fun data hl => ?_).trans hstatus⟩
  exact hkeeps e he id data item₁ hl hitem₁ hclosed₁

/-- Closed items stay as they are exactly if no unconditional update gives one another status. -/
theorem absorbing_iff (h : (dlqSystem ι app).Exec (.idle d) es p) :
    Absorbing app d es ↔ ∀ e ∈ es, KeepsClosed e := by
  constructor
  · rintro habsorbing e he id data item hl hitem hclosed
    obtain ⟨es₁, es₂, rfl⟩ := List.append_of_mem he
    obtain ⟨h₁, hstep, -⟩ := System.exec_middle_iff.1 h
    obtain ⟨item₁, hitem₁, hstatus⟩ := habsorbing es₁ [e] es₂ e.before e.after id item (by simp) h₁
      (System.exec_cons_iff.2 ⟨rfl, hstep, .nil _⟩) hitem hclosed
    obtain ⟨item₂, hitem₂, hitemStep⟩ := item_step hstep hitem
    obtain rfl : item₂ = item₁ := Option.some.inj (hitem₂.symm.trans hitem₁)
    cases hitemStep with
    | stays _ hupdate => exact absurd hl (hupdate data)
    | claimed _ hclaim => exact absurd hclosed hclaim.not_closed
    | updated hl' =>
      obtain ⟨i, hl⟩ := hl
      obtain ⟨j, hl'⟩ := hl'
      rw [hl] at hl'
      cases hl'
      exact hstatus
  · rintro hkeeps es₁ es₂ es₃ m n id item rfl - h₂ hitem hclosed
    exact closed_of_exec h₂ (fun e he => hkeeps e (by simp [he])) hitem hclosed

/-- An item is skipped twice. -/
theorem absorbing_two_skips : ∃ es p,
    (dlqSystem Bool App.bare).Exec (.idle (.initial oneItem 0)) es p ∧
      Absorbing App.bare (.initial oneItem 0) es := by
  have h := System.reaches_refl (S := dlqSystem Bool App.bare) (P := KeepsClosed)
    (.idle (.initial oneItem 0))
  have h := h.snoc (.start (i := false) rfl (.job (.skip "item-1"))) (by rintro _ _ _ ⟨_, ⟨⟩⟩)
  have h := h.snoc (.call (i := false) rfl (.update rfl)) (by
    rintro _ _ _ ⟨_, ⟨⟩⟩ ⟨⟩ (⟨⟨⟩⟩ | ⟨⟨⟩⟩))
  have h := h.snoc (.start (i := true) rfl (.job (.skip "item-1"))) (by rintro _ _ _ ⟨_, ⟨⟩⟩)
  have h := h.snoc (.call (i := true) rfl (.update rfl)) (by rintro _ _ _ ⟨_, ⟨⟩⟩ ⟨⟩ -; rfl)
  obtain ⟨es, h, hkeeps⟩ := h
  exact ⟨es, _, h, (absorbing_iff h).2 hkeeps⟩

/-- An item is skipped, and then a retry of it that was under way fails. -/
theorem not_absorbing : ∃ es p,
    (dlqSystem Bool App.bare).Exec (.idle (.initial oneItem 0)) es p ∧
      ¬ Absorbing App.bare (.initial oneItem 0) es := by
  have h := System.Exec.nil (S := dlqSystem Bool App.bare) (.idle (.initial oneItem 0))
  have h := h.snoc (.start (i := false) rfl (.job (.skip "item-1")))
  have h := h.snoc (.call (i := false) rfl (.update rfl))
  obtain ⟨h, h'⟩ := h.mark
  have h' := h'.snoc (.start (i := true) rfl (.job (.markRetryFailed "item-1" "timeout")))
  have h' := h'.snoc (.call (i := true) rfl (.update rfl))
  refine ⟨_, _, h.trans h', fun habsorbing => ?_⟩
  obtain ⟨item, hitem, hstatus⟩ := habsorbing _ _ [] _ _ "item-1" _ (by simp) h h' rfl (Or.inl rfl)
  cases hitem
  cases hstatus

/-! ### Closed items are not executed -/

/-- No retry calls the connector for an item that is closed at that moment. -/
def NeverExecutesClosed (es : List (DlqEntry ι)) : Prop :=
  ∀ e ∈ es, ∀ i payload answer id item, e.label = .call i ⟨.execute payload, answer⟩ →
    e.before.shared.subject i = some id → e.before.shared.items id = some item →
    ¬ item.status.Closed

/-- What is left of the program may call `execute`. -/
def MayExecute (p : Prog Unit) : Prop := ¬ p.Issues fun r => ∀ payload, r ≠ .execute payload

/-- Slot `i` has the item in hand, and may still execute it. -/
def Executing (p : DlqPool ι) (i : ι) (id : String) : Prop :=
  (p.shared.hand i).map Hand.id = some id ∧ ∃ r, p.thread i = some r ∧ MayExecute r

/-- If the step delivers a retry message, then that of an item that is not closed. -/
def DeliversOpen (e : DlqEntry ι) : Prop :=
  ∀ i id item, e.label = .start i → (e.after.shared.hand i).map Hand.id = some id →
    e.after.shared.items id = some item → ¬ item.status.Closed

/-- If the step closes an item, then no other slot is executing it. -/
def ClosesIdle (e : DlqEntry ι) : Prop :=
  ∀ i j id data, e.label = .call i ⟨.dlqItemUpdate id data, .ok ()⟩ → data.status.Closed → j ≠ i →
    ¬ Executing e.before j id

/-- No item that is being executed is closed. -/
def ExecutesOpen (p : DlqPool ι) : Prop :=
  ∀ i id item, Executing p i id → p.shared.items id = some item → ¬ item.status.Closed

theorem MayExecute.await {r : Req} {k : Ans r → Prog Unit} {a : Ans r} (h : MayExecute (k a)) :
    MayExecute (.await r k) := fun hissues => h (hissues.2 a)

theorem mayExecute_execute {payload : ConnectorPayload}
    {k : Ans (.execute payload) → Prog Unit} : MayExecute (.await (.execute payload) k) :=
  fun hissues => hissues.1 payload rfl

theorem executesOpen_step {d : DlqState ι} (h : (dlqSystem ι app).Exec (.idle d) es p)
    {e : DlqEntry ι} (he : e ∈ es) (hdelivers : DeliversOpen e) (hcloses : ClosesIdle e)
    (hinv : ExecutesOpen e.before) : ExecutesOpen e.after := by
  have hstep := h.step_of_mem he
  have hcreate : ∀ {i data}, e.label = .call i ⟨.dlqItemCreate data, .ok ()⟩ →
      data.status = .pending := by
    intro i data hl
    obtain ⟨q, -, hok⟩ := request_ok h he hl
    exact hok
  obtain ⟨s, l, s'⟩ := e
  change (dlqSystem ι app).Step s l s' at hstep
  intro i id item' hexec hitem'
  change s'.shared.items id = some item' at hitem'
  rcases item_origin hstep hitem' with ⟨item, hitem, hitemStep⟩ | ⟨j, data, hl, -, rfl⟩
  swap
  · -- a new item is pending
    rintro (hstatus | hstatus) <;> simp [DlqItemCreate.item, hcreate hl] at hstatus
  -- what slot `i` was executing before the step was open, and stays so
  have hbefore : Executing s i id → ¬ item'.status.Closed := by
    intro hexec'
    have hopen := hinv i id item hexec' hitem
    cases hitemStep with
    | stays _ _ => exact hopen
    | claimed _ _ => rintro (⟨⟨⟩⟩ | ⟨⟨⟩⟩)
    | @updated data hl =>
      obtain ⟨j, hl⟩ := hl
      intro hclosed
      by_cases hij : i = j
      · subst hij
        -- its own update has taken the item out of its hand
        change l = _ at hl
        subst hl
        obtain ⟨k, -, henv, -⟩ := hstep.call_inv
        obtain ⟨hhand, -⟩ := hexec
        change (s'.shared.hand i).map Hand.id = some id at hhand
        generalize s'.shared = x at henv hhand
        cases DlqEnv.effect henv with
        | none _ hupdate => exact hupdate _ _ rfl
        | update _ =>
          obtain ⟨hand, hhand, hid⟩ := Option.map_eq_some_iff.1 hhand
          exact (hand_of_update hhand).2 rfl hid
      · exact hcloses j i id data hl hclosed hij hexec'
  obtain ⟨hhand, r, hthread, hmay⟩ := hexec
  change (s'.shared.hand i).map Hand.id = some id at hhand
  change s'.thread i = some r at hthread
  cases hstep with
  | @call j q k a x hj henv =>
    have hmay' : ∃ r', s.thread i = some r' ∧ MayExecute r' := by
      by_cases hij : i = j
      · subst hij
        obtain rfl : k a = r := by simpa using hthread
        exact ⟨_, hj, hmay.await⟩
      · exact ⟨r, by simpa [hij] using hthread, hmay⟩
    rcases (DlqEnv.effect henv).hand_eq hhand with hhand' | ⟨rfl, c, hid, hv⟩
    · exact hbefore ⟨hhand', hmay'⟩
    · -- a claimed item is being retried
      cases hv
      cases hitemStep with
      | stays hclaim _ => exact absurd ⟨hid, i, rfl⟩ (hclaim c)
      | claimed _ _ => rintro (⟨⟨⟩⟩ | ⟨⟨⟩⟩)
      | updated hl =>
        obtain ⟨_, ⟨⟩⟩ := hl
  | @start j q x hj hstart =>
    by_cases hij : i = j
    · subst hij
      exact hdelivers i id item' rfl hhand hitem'
    · refine hbefore ⟨?_, r, by simpa [hij] using hthread, hmay⟩
      cases hstart <;> simpa [hij] using hhand
  | tick ht =>
    cases ht
    exact hbefore ⟨hhand, r, hthread, hmay⟩

/-- No closed item is executed, if retry messages are delivered only while their item is open, and
items are closed only while no other slot is executing them. -/
theorem neverExecutesClosed (h : (dlqSystem ι app).Exec (.idle d) es p)
    (hdelivers : ∀ e ∈ es, DeliversOpen e) (hcloses : ∀ e ∈ es, ClosesIdle e) :
    NeverExecutesClosed es := by
  intro e he i payload answer id item hl hsubject hitem
  have hopen : ExecutesOpen e.before := by
    refine h.invariant_before (I := ExecutesOpen)
      (fun e he _ => executesOpen_step h he (hdelivers e he) (hcloses e he)) ?_ he
    rintro i id item ⟨-, r, ⟨⟩, -⟩
  have hstep := h.step_of_mem he
  rw [hl] at hstep
  obtain ⟨k, hk, -⟩ := hstep.call_inv
  refine hopen i id item ⟨?_, _, hk, mayExecute_execute⟩ hitem
  rw [inHand_of_execute h he hl, hsubject]

/-- An administrator retries an item, and the retry executes it. -/
theorem neverExecutesClosed_retry : ∃ es p,
    (dlqSystem Unit App.bare).Exec (.idle (.initial oneItem 0)) es p ∧
      (∃ e ∈ es, e.label = .call () ⟨.execute someEvent.toConnector, .ok ⟨true, none, none⟩⟩) ∧
      NeverExecutesClosed es := by
  have h := System.reaches_refl (S := dlqSystem Unit App.bare)
    (P := fun e => DeliversOpen e ∧ ClosesIdle e) (.idle (.initial oneItem 0))
  have h := h.snoc (.start (i := ()) rfl (.job (.adminRetry "item-1")))
    ⟨by rintro _ _ _ _ ⟨⟩, by rintro _ _ _ _ ⟨⟩⟩
  have h := h.snoc (.call (i := ()) rfl .findTarget)
    ⟨by rintro _ _ _ ⟨⟩, by rintro _ _ _ _ ⟨⟩⟩
  have h := h.snoc (.call (i := ()) rfl (.other (a := (.ok none : Except JsError (Option Column)))
    (by simp [Req.OnDlq]))) ⟨by rintro _ _ _ ⟨⟩, by rintro _ _ _ _ ⟨⟩⟩
  have h := h.snoc (.call (i := ()) rfl .now) ⟨by rintro _ _ _ ⟨⟩, by rintro _ _ _ _ ⟨⟩⟩
  have h := h.snoc (.call (i := ()) rfl .now) ⟨by rintro _ _ _ ⟨⟩, by rintro _ _ _ _ ⟨⟩⟩
  have h := h.snoc (.call (i := ()) rfl (.claim rfl (DlqItem.claimable_iff.2 trivial)))
    ⟨by rintro _ _ _ ⟨⟩, by rintro _ _ _ _ ⟨⟩⟩
  have h := h.snoc (.call (i := ()) rfl
    (.other (a := (.ok [] : Except JsError (List (DlqStatus × ℕ)))) (by simp [Req.OnDlq])))
    ⟨by rintro _ _ _ ⟨⟩, by rintro _ _ _ _ ⟨⟩⟩
  have h := h.snoc (.call (i := ()) rfl (.other (a := ()) (by simp [Req.OnDlq])))
    ⟨by rintro _ _ _ ⟨⟩, by rintro _ _ _ _ ⟨⟩⟩
  have h := h.snoc (.call (i := ()) rfl (.other (a := ()) (by simp [Req.OnDlq])))
    ⟨by rintro _ _ _ ⟨⟩, by rintro _ _ _ _ ⟨⟩⟩
  have h := h.snoc (.call (i := ()) rfl (.other (a := ()) (by simp [Req.OnDlq])))
    ⟨by rintro _ _ _ ⟨⟩, by rintro _ _ _ _ ⟨⟩⟩
  have h := h.snoc (.call (i := ()) rfl (.other (a := ()) (by simp [Req.OnDlq])))
    ⟨by rintro _ _ _ ⟨⟩, by rintro _ _ _ _ ⟨⟩⟩
  have h := h.snoc (.call (i := ()) rfl .findUnique) ⟨by rintro _ _ _ ⟨⟩, by rintro _ _ _ _ ⟨⟩⟩
  have h := h.snoc (.call (i := ()) rfl (.other (a := (some ⟨false, false⟩ : Option Connector))
    (by simp [Req.OnDlq]))) ⟨by rintro _ _ _ ⟨⟩, by rintro _ _ _ _ ⟨⟩⟩
  have h := h.snoc (.call (i := ()) rfl (.other (a := (.ok none : Except JsError (Option Column)))
    (by simp [Req.OnDlq]))) ⟨by rintro _ _ _ ⟨⟩, by rintro _ _ _ _ ⟨⟩⟩
  obtain ⟨es, h, hes⟩ := h
  have h := h.snoc (.call (i := ()) rfl
    (.other (a := (.ok ⟨true, none, none⟩ : Except JsError ConnectorResult)) (by simp [Req.OnDlq])))
  refine ⟨_, _, h, ⟨_, List.mem_append_right _ (List.mem_singleton_self _), rfl⟩,
    neverExecutesClosed h (fun e he => ?_) fun e he => ?_⟩
  · rcases List.mem_append.1 he with he | he
    · exact (hes e he).1
    · rw [List.mem_singleton.1 he]
      rintro _ _ _ ⟨⟩
  · rcases List.mem_append.1 he with he | he
    · exact (hes e he).2
    · rw [List.mem_singleton.1 he]
      rintro _ _ _ _ ⟨⟩

/-- An item is skipped after a retry message for it was sent; the message is delivered, and the item
is executed. -/
theorem not_neverExecutesClosed : ∃ es p,
    (dlqSystem (Fin 3) App.queueing).Exec (.idle (.initial oneItem 0)) es p ∧
      ¬ NeverExecutesClosed es := by
  have h := System.Exec.nil (S := dlqSystem (Fin 3) App.queueing) (.idle (.initial oneItem 0))
  -- an administrator claims the item and sends the message
  have h := h.snoc (.start (i := 0) rfl (.job (.adminRetry "item-1")))
  have h := h.snoc (.call (i := 0) rfl .findTarget)
  have h := h.snoc (.call (i := 0) rfl (.other (a := (.ok none : Except JsError (Option Column)))
    (by simp [Req.OnDlq])))
  have h := h.snoc (.call (i := 0) rfl .now)
  have h := h.snoc (.call (i := 0) rfl .now)
  have h := h.snoc (.call (i := 0) rfl (.claim rfl (DlqItem.claimable_iff.2 trivial)))
  have h := h.snoc (.call (i := 0) rfl
    (.other (a := (.ok [] : Except JsError (List (DlqStatus × ℕ)))) (by simp [Req.OnDlq])))
  have h := h.snoc (.call (i := 0) rfl (.other (a := ()) (by simp [Req.OnDlq])))
  have h := h.snoc (.call (i := 0) rfl (.other (a := ()) (by simp [Req.OnDlq])))
  have h := h.snoc (.call (i := 0) rfl (.other (a := ()) (by simp [Req.OnDlq])))
  have h := h.snoc (.call (i := 0) rfl (.other (a := ()) (by simp [Req.OnDlq])))
  have h := h.snoc (.call (i := 0) rfl .findUnique)
  have h := h.snoc (.call (i := 0) rfl .send)
  -- the item is skipped
  have h := h.snoc (.start (i := 1) rfl (.job (.skip "item-1")))
  have h := h.snoc (.call (i := 1) rfl (.update rfl))
  -- the message is delivered
  have h := h.snoc (.start (i := 2) rfl (.deliver (List.mem_singleton_self _)))
  have h := h.snoc (.call (i := 2) rfl (.other (a := (some ⟨false, false⟩ : Option Connector))
    (by simp [Req.OnDlq])))
  have h := h.snoc (.call (i := 2) rfl (.other (a := (.ok none : Except JsError (Option Column)))
    (by simp [Req.OnDlq])))
  have h := h.snoc (.call (i := 2) rfl
    (.other (a := (.ok ⟨true, none, none⟩ : Except JsError ConnectorResult)) (by simp [Req.OnDlq])))
  refine ⟨_, _, h, fun hnever => ?_⟩
  have hopen := hnever _ (List.mem_append_right _ (List.mem_singleton_self _)) 2 _ _ "item-1" _ rfl
    rfl rfl
  exact hopen (Or.inl rfl)

end IdmMw
