import WmsDu.System.History

/-!
# What events ship

The lines of outbound events, summed by document line and by the events they
stand under. A reversal writes copies of the lines it reverses, so reversals
ship what superseded events ship.
-/

namespace WmsDu

open Txn Tx

/-! ## Document lines -/

/-- A line of an order or of a manual document. -/
inductive DocLine
  | order (id : Int)
  | manual (id : Int)

/-- The event line ships for the document line. -/
def DocLine.Ships : DocLine → OutboundEventLine → Prop
  | .order id, l => l.orderLineId = some id
  | .manual id, l => l.manualDocLineId = some id

instance : ∀ (d : DocLine) (l : OutboundEventLine), Decidable (d.Ships l)
  | .order id, l => inferInstanceAs (Decidable (l.orderLineId = some id))
  | .manual id, l => inferInstanceAs (Decidable (l.manualDocLineId = some id))

/-- What the next submit reads as shipped. -/
def DocLine.submitted (db : Db) : DocLine → Int
  | .order id => submittedQty db id
  | .manual id => manualSubmittedQty db id

/-- Copies ship for the same document line. -/
theorem DocLine.ships_copyFor {d : DocLine} {l : OutboundEventLine} {eventId : Int} :
    d.Ships (l.copyFor eventId) ↔ d.Ships l := by
  cases d <;> exact Iff.rfl

theorem DocLine.submitted_eq (db : Db) (d : DocLine) :
    d.submitted db = sumOver d.Ships OutboundEventLine.qtyOutbound db.outboundEventLines.rows := by
  cases d <;> rfl

/-! ## What events of a kind ship -/

/-- The event line stands under an event that satisfies `p`. -/
def OutboundEventLine.Under (db : Db) (p : WmsEvent → Prop) (l : OutboundEventLine) : Prop :=
  ∃ e ∈ db.wmsEvents.rows, e.id = l.eventId ∧ p e

instance (db : Db) (p : WmsEvent → Prop) [DecidablePred p] (l : OutboundEventLine) :
    Decidable (l.Under db p) :=
  inferInstanceAs (Decidable (∃ e ∈ db.wmsEvents.rows, _))

/-- What the events that satisfy `p` ship for a document line. -/
def Db.shipped (db : Db) (p : WmsEvent → Prop) [DecidablePred p] (d : DocLine) : Int :=
  sumOver (fun l => d.Ships l ∧ l.Under db p) OutboundEventLine.qtyOutbound
    db.outboundEventLines.rows

def WmsEvent.Live (e : WmsEvent) : Prop := e.eventKind = .commit ∧ e.status = .committed

def WmsEvent.Superseded (e : WmsEvent) : Prop := e.status = .superseded

def WmsEvent.Reversal (e : WmsEvent) : Prop := e.eventKind = .reversal

instance : DecidablePred WmsEvent.Live := fun e =>
  inferInstanceAs (Decidable (e.eventKind = .commit ∧ e.status = .committed))

instance : DecidablePred WmsEvent.Superseded := fun e =>
  inferInstanceAs (Decidable (e.status = .superseded))

instance : DecidablePred WmsEvent.Reversal := fun e =>
  inferInstanceAs (Decidable (e.eventKind = .reversal))

section Sums
variable {db db' : Db} {x : Additions} {p q : WmsEvent → Prop} [DecidablePred p] [DecidablePred q]
  {d : DocLine}

theorem Db.Valid.shipped_nonneg (hv : db.Valid) : 0 ≤ db.shipped p d :=
  sumOver_nonneg fun l hl _ => le_of_lt (hv.outbound l hl).1

/-- Where every event is of one of two kinds, lines are split between them. -/
theorem Db.shipped_split (hpq : ∀ e ∈ db.wmsEvents.rows, p e → ¬ q e) :
    db.shipped (fun e => p e ∨ q e) d = db.shipped p d + db.shipped q d := by
  have hsplit := sumOver_and_add_and_not (p := fun l => d.Ships l ∧ l.Under db fun e => p e ∨ q e)
    (q := fun l => l.Under db p) (f := OutboundEventLine.qtyOutbound) db.outboundEventLines.rows
  rw [Db.shipped, ← hsplit]
  congr 1
  · refine sumOver_congr (fun l _ => ?_) fun _ _ _ => rfl
    constructor
    · rintro ⟨⟨hd, -⟩, hp⟩
      exact ⟨hd, hp⟩
    · rintro ⟨hd, e, he, hid, hp⟩
      exact ⟨⟨hd, e, he, hid, Or.inl hp⟩, e, he, hid, hp⟩
  · refine sumOver_congr (fun l _ => ?_) fun _ _ _ => rfl
    constructor
    · rintro ⟨⟨hd, e, he, hid, hp | hq⟩, hnot⟩
      · exact absurd ⟨e, he, hid, hp⟩ hnot
      · exact ⟨hd, e, he, hid, hq⟩
    · rintro ⟨hd, e, he, hid, hq⟩
      refine ⟨⟨hd, e, he, hid, Or.inr hq⟩, ?_⟩
      rintro ⟨e', he', hid', hp⟩
      rw [db.wmsEvents.eq_of_key he' he (hid'.trans hid.symm)] at hp
      exact hpq e he hp hq

/-- Where the same events have the same lines, the same is shipped. -/
theorem Db.shipped_of_rows (he : db'.wmsEvents.rows = db.wmsEvents.rows)
    (ho : db'.outboundEventLines.rows = db.outboundEventLines.rows) :
    db'.shipped p d = db.shipped p d := by
  rw [Db.shipped, Db.shipped, ho]
  refine sumOver_congr (fun l _ => and_congr_right fun _ => ?_) fun _ _ _ => rfl
  rw [OutboundEventLine.Under, OutboundEventLine.Under, he]

/-- Lines under new events leave old sums alone; what they add is their own. -/
theorem Adds.shipped {e : WmsEvent} (hv : db.Valid) (hadd : Adds db x db') (hevents : x.events = [e])
    (hnew : ¬ db.wmsEvents.HasKey e.id) (hls : ∀ l ∈ x.outbound, l.eventId = e.id) :
    db'.shipped p d = db.shipped p d +
      if p e then sumOver d.Ships OutboundEventLine.qtyOutbound x.outbound else 0 := by
  have hmem : ∀ {o}, o ∈ db'.wmsEvents.rows ↔ o ∈ db.wmsEvents.rows ∨ o = e := by
    intro o
    rw [hadd.events, hevents, List.mem_append, List.mem_singleton]
  rw [Db.shipped, hadd.outbound, sumOver_append]
  congr 1
  · refine sumOver_congr (fun l hl => and_congr_right fun _ => ?_) fun _ _ _ => rfl
    constructor
    · rintro ⟨o, ho, hid, hp⟩
      rcases hmem.mp ho with ho | rfl
      · exact ⟨o, ho, hid, hp⟩
      · exact absurd (hid ▸ (hv.outbound l hl).2) hnew
    · rintro ⟨o, ho, hid, hp⟩
      exact ⟨o, hmem.mpr (Or.inl ho), hid, hp⟩
  · have hunder : ∀ l ∈ x.outbound, (l.Under db' p ↔ p e) := by
      intro l hl
      constructor
      · rintro ⟨o, ho, hid, hp⟩
        rcases hmem.mp ho with ho | rfl
        · exact absurd ⟨o, ho, hid.trans (hls l hl)⟩ hnew
        · exact hp
      · exact fun hp => ⟨e, hmem.mpr (Or.inr rfl), (hls l hl).symm, hp⟩
    split
    · rename_i hp
      exact sumOver_congr (fun l hl => and_iff_left ((hunder l hl).mpr hp)) fun _ _ _ => rfl
    · rename_i hp
      exact sumOver_eq_zero fun l hl h => absurd ((hunder l hl).mp h.2) hp

/-- The mark moves the lines of its event from one sum to the other. -/
theorem Db.shipped_supersede {eventId : Int} :
    ((Redo.eventSupersede eventId).apply db).shipped p d =
      db.shipped (fun e => p (e.marked eventId)) d := by
  refine sumOver_congr (fun l _ => and_congr_right fun _ => ?_) fun _ _ _ => rfl
  constructor
  · rintro ⟨e', he', hid, hp⟩
    obtain ⟨e, he, rfl⟩ := mem_events_supersede.mp he'
    exact ⟨e, he, by rwa [WmsEvent.marked_id] at hid, hp⟩
  · rintro ⟨e, he, hid, hp⟩
    exact ⟨_, mem_events_supersede.mpr ⟨e, he, rfl⟩, by rwa [WmsEvent.marked_id], hp⟩

theorem Db.shipped_congr (h : ∀ e ∈ db.wmsEvents.rows, p e ↔ q e) :
    db.shipped p d = db.shipped q d := by
  refine sumOver_congr (fun l _ => and_congr_right fun _ => ?_) fun _ _ _ => rfl
  constructor
  · rintro ⟨e, he, hid, hp⟩
    exact ⟨e, he, hid, (h e he).mp hp⟩
  · rintro ⟨e, he, hid, hq⟩
    exact ⟨e, he, hid, (h e he).mpr hq⟩

/-- What one event ships. -/
theorem Db.shipped_event {e : WmsEvent} (he : e ∈ db.wmsEvents.rows) :
    db.shipped (fun o => o.id = e.id) d =
      sumOver d.Ships OutboundEventLine.qtyOutbound (linesOf outboundSide db e.id) := by
  rw [linesOf, sumOver_filter]
  refine sumOver_congr (fun l _ => ?_) fun _ _ _ => rfl
  rw [and_comm]
  refine and_congr_left fun _ => ?_
  constructor
  · rintro ⟨o, -, hid, ho⟩
    exact hid.symm.trans ho
  · exact fun hid => ⟨e, he, (show l.eventId = e.id from hid).symm, rfl⟩

end Sums

/-! ## One step -/

/-- Outbound lines stand under outbound events, and reversals repeat what they
reverse. -/
structure Mirrored (db : Db) : Prop where
  typed : ∀ l ∈ db.outboundEventLines.rows, l.Under db fun e => e.eventType = .outbound
  copied : ∀ d, db.shipped WmsEvent.Reversal d = db.shipped WmsEvent.Superseded d

section Steps
variable {db db₁ db' : Db} {x : Additions} {original e : WmsEvent}

theorem Mirrored.of_rows (h : Mirrored db) (he : db'.wmsEvents.rows = db.wmsEvents.rows)
    (ho : db'.outboundEventLines.rows = db.outboundEventLines.rows) : Mirrored db' := by
  refine ⟨fun l hl => ?_, fun d => ?_⟩
  · rw [ho] at hl
    rw [OutboundEventLine.Under, he]
    exact h.typed l hl
  · rw [Db.shipped_of_rows he ho, Db.shipped_of_rows he ho]
    exact h.copied d

/-- An outbound event with its lines, or any other without. -/
theorem Mirrored.typed_adds (h : Mirrored db) (hadd : Adds db x db') (hevents : x.events = [e])
    (hls : ∀ l ∈ x.outbound, l.eventId = e.id)
    (htype : e.eventType = .outbound ∨ x.outbound = []) :
    ∀ l ∈ db'.outboundEventLines.rows, l.Under db' fun e => e.eventType = .outbound := by
  intro l hl
  rw [hadd.outbound] at hl
  rcases List.mem_append.mp hl with hl | hl
  · obtain ⟨o, ho, hrest⟩ := h.typed l hl
    refine ⟨o, ?_, hrest⟩
    rw [hadd.events]
    exact List.mem_append_left _ ho
  · refine ⟨e, ?_, (hls l hl).symm, ?_⟩
    · rw [hadd.events, hevents]
      exact List.mem_append_right _ List.mem_cons_self
    · rcases htype with htype | hnil
      · exact htype
      · rw [hnil] at hl
        cases hl

theorem Mirrored.commits (h : Mirrored db) (hv : db.Valid) (hc : Commits db e x db')
    (htype : e.eventType = .outbound ∨ x.outbound = []) : Mirrored db' := by
  have hkind : ¬ e.Reversal := by
    intro hr
    have heq := hc.kind
    rw [show e.eventKind = .reversal from hr] at heq
    cases heq
  have hstatus : ¬ e.Superseded := by
    intro hs
    have heq := hc.status
    rw [show e.status = .superseded from hs] at heq
    cases heq
  refine ⟨h.typed_adds hc.adds hc.events hc.outbound htype, fun d => ?_⟩
  rw [hc.adds.shipped hv hc.events hc.new hc.outbound, if_neg hkind,
    hc.adds.shipped hv hc.events hc.new hc.outbound, if_neg hstatus, h.copied]

/-- A reversal ships once more what its target shipped, and moves the target
to the superseded. -/
theorem Mirrored.reverses {Line : Type} {side : ReversalSide Line} {ls : List Line}
    (h : Mirrored db) (hv : db.Valid) (hrev : Reverses side db original e ls x db')
    (his : IsReversalOf side original e) (hls : ∀ l ∈ x.outbound, l.eventId = e.id)
    (htype : e.eventType = .outbound ∨ x.outbound = [])
    (hback : ∀ d : DocLine, sumOver d.Ships OutboundEventLine.qtyOutbound x.outbound =
      sumOver d.Ships OutboundEventLine.qtyOutbound (linesOf outboundSide db original.id)) :
    Mirrored db' := by
  obtain ⟨db₁, hadd, rfl⟩ := hrev.adds
  have hne : e.id ≠ original.id := fun heq => hrev.new ⟨original, hrev.found, heq.symm⟩
  have hfound : original ∈ db₁.wmsEvents.rows := by
    rw [hadd.events]
    exact List.mem_append_left _ hrev.found
  have hstatus : ¬ e.Superseded := by
    intro hs
    rw [WmsEvent.Superseded, his.status] at hs
    cases hs
  have hkeep : linesOf outboundSide db₁ original.id = linesOf outboundSide db original.id :=
    linesOf_append hadd.outbound fun l hl => by
      rw [show outboundSide.lineEventId l = e.id from hls l hl]
      exact hne
  have hmarked : ∀ o : WmsEvent, (o.marked original.id).Superseded ↔
      o.Superseded ∨ o.id = original.id := by
    intro o
    by_cases hid : o.id = original.id
    · exact iff_of_true (WmsEvent.marked_status_of_eq hid) (Or.inr hid)
    · rw [WmsEvent.marked_of_ne hid]
      exact (or_iff_left hid).symm
  have hdisjoint : ∀ o ∈ db₁.wmsEvents.rows, o.Superseded → ¬ o.id = original.id := by
    intro o ho hs hid
    rw [db₁.wmsEvents.eq_of_key ho hfound hid, WmsEvent.Superseded, hrev.commit.2.2] at hs
    cases hs
  refine ⟨?_, fun d => ?_⟩
  · intro l hl
    obtain ⟨o, ho, hid, htype⟩ := h.typed_adds hadd hrev.events hls htype l hl
    exact ⟨_, mem_events_supersede.mpr ⟨o, ho, rfl⟩, WmsEvent.marked_id.trans hid,
      WmsEvent.marked_eventType.trans htype⟩
  · have hcopies : db₁.shipped (fun o => (o.marked original.id).Reversal) d =
        db.shipped WmsEvent.Reversal d +
          sumOver d.Ships OutboundEventLine.qtyOutbound x.outbound := by
      rw [Db.shipped_congr (q := WmsEvent.Reversal) fun o _ => by
          rw [WmsEvent.Reversal, WmsEvent.marked_eventKind, WmsEvent.Reversal],
        hadd.shipped hv hrev.events hrev.new hls,
        if_pos (show e.Reversal from his.kind)]
    have htargets : db₁.shipped (fun o => (o.marked original.id).Superseded) d =
        db.shipped WmsEvent.Superseded d + sumOver d.Ships OutboundEventLine.qtyOutbound
          (linesOf outboundSide db original.id) := by
      rw [Db.shipped_congr fun o _ => hmarked o, Db.shipped_split hdisjoint,
        Db.shipped_event hfound, hkeep, hadd.shipped hv hrev.events hrev.new hls, if_neg hstatus,
        add_zero]
    rw [Db.shipped_supersede, Db.shipped_supersede, hcopies, htargets, h.copied, hback]

end Steps

/-- **One operation keeps the lines mirrored.** -/
theorem Mirrored.step {db db' : Db} {op : Op} (h : Mirrored db) (hv : db.Valid)
    (hfresh : op.Fresh db) (hrun : op.prog.run db = .ok ((), db')) : Mirrored db' := by
  cases Op.historyStep hfresh hrun with
  | quiet hadd hrows =>
      exact h.of_rows (by rw [hadd.events, List.append_nil]) (by rw [hadd.outbound, List.append_nil])
  | commits hc hout _ _ => exact h.commits hv hc (hout.imp_left And.right)
  | outboundReversal his hrev =>
      refine h.reverses hv hrev his ?_ (Or.inl his.eventType) fun d => ?_
      · intro l hl
        obtain ⟨l', -, rfl⟩ := List.mem_map.mp hl
        rfl
      · rw [← sumOver_perm hrev.lines, sumOver_map]
        exact sumOver_congr (fun _ _ => DocLine.ships_copyFor) fun _ _ _ => rfl
  | inboundReversal his hrev =>
      refine h.reverses hv hrev his (List.forall_mem_nil _) (Or.inr rfl) fun d => ?_
      rw [sumOver_nil]
      refine (sumOver_eq_zero fun l hl _ => ?_).symm
      obtain ⟨hl, hid⟩ := List.mem_filter.mp hl
      obtain ⟨o, ho, hoid, htype⟩ := h.typed l hl
      rw [db.wmsEvents.eq_of_key ho hrev.found (hoid.trans (of_decide_eq_true hid)),
        hrev.commit.1] at htype
      cases htype

theorem Db.Start.mirrored {db : Db} (h : db.Start) : Mirrored db := by
  refine ⟨fun l hl => ?_, fun d => ?_⟩
  · rw [h.outboundEventLines] at hl
    cases hl
  · rw [Db.shipped, Db.shipped, h.outboundEventLines]
    rfl

/-! ## The progress of a document line -/

theorem Mirrored.submitted_eq {db : Db} (h : Mirrored db) (hv : db.Valid) (hh : History db)
    (d : DocLine) :
    d.submitted db = db.shipped WmsEvent.Live d + 2 * db.shipped WmsEvent.Superseded d := by
  have hkinds : ∀ e ∈ db.wmsEvents.rows, e.Live ∨ e.Superseded ∨ e.Reversal := by
    intro e he
    rcases hh.shape e he with ⟨hkind, hstatus | hstatus⟩ | ⟨hkind, -⟩
    · exact Or.inl ⟨hkind, hstatus⟩
    · exact Or.inr (Or.inl hstatus)
    · exact Or.inr (Or.inr hkind)
  have hlive : ∀ e ∈ db.wmsEvents.rows, e.Live → ¬ (e.Superseded ∨ e.Reversal) := by
    rintro e - ⟨hkind, hstatus⟩ (hs | hr)
    · rw [WmsEvent.Superseded, hstatus] at hs
      cases hs
    · rw [WmsEvent.Reversal, hkind] at hr
      cases hr
  have hone : ∀ e ∈ db.wmsEvents.rows, e.Superseded → ¬ e.Reversal := by
    intro e he hs hr
    rcases hh.shape e he with ⟨hkind, -⟩ | ⟨-, hstatus⟩
    · rw [WmsEvent.Reversal, hkind] at hr
      cases hr
    · rw [WmsEvent.Superseded, hstatus] at hs
      cases hs
  -- every line stands under one event, of one of the three kinds
  have hall : d.submitted db = db.shipped (fun e => e.Live ∨ e.Superseded ∨ e.Reversal) d := by
    rw [DocLine.submitted_eq]
    refine sumOver_congr (fun l hl => (and_iff_left ?_).symm) fun _ _ _ => rfl
    obtain ⟨e, he, hid⟩ := (hv.outbound l hl).2
    exact ⟨e, he, hid, hkinds e he⟩
  rw [hall, Db.shipped_split hlive, Db.shipped_split hone, h.copied, two_mul]

/-- A sum of positive quantities is zero when there are none. -/
theorem Db.Valid.shipped_eq_zero {db : Db} (hv : db.Valid) {p : WmsEvent → Prop} [DecidablePred p]
    {d : DocLine} :
    db.shipped p d = 0 ↔ ∀ l ∈ db.outboundEventLines.rows, d.Ships l → ¬ l.Under db p := by
  constructor
  · intro hzero l hl hd hp
    have hpos : 0 < db.shipped p d := sumOver_pos (fun l hl _ => (hv.outbound l hl).1) hl ⟨hd, hp⟩
    omega
  · exact fun hnone => sumOver_eq_zero fun l hl h => absurd h.2 (hnone l hl h.1)

theorem ReachableBy.mirrored {allowed : Db → Op → Prop} {db : Db} (h : ReachableBy allowed db) :
    Mirrored db :=
  h.invariant (fun _ hs => hs.mirrored) fun _ _ _ hreach hfresh _ hI hrun =>
    hI.step hreach.valid hfresh hrun

end WmsDu
