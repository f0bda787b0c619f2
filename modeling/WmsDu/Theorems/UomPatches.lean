import Mathlib
import WmsDu.Pms.UomPatch

/-!
# Patches as frames

A patch should touch what it names and nothing else. Six columns of a unit are
treated so. The display name and the net weight are set by every patch, to
null by one that leaves them out.
-/

namespace WmsDu

open Txn

/-- The value of the last request that named a field, or the initial one. -/
def lastNamed {α : Type} (named : ItemUomPatch → Option α) (initial : α)
    (requests : List ItemUomPatch) : α := (requests.reverse.findSome? named).getD initial

section LastNamed
variable {α : Type} {named : ItemUomPatch → Option α} {initial : α}

@[simp] theorem lastNamed_nil : lastNamed named initial [] = initial := rfl

theorem lastNamed_cons (p : ItemUomPatch) (rest : List ItemUomPatch) :
    lastNamed named initial (p :: rest) = lastNamed named ((named p).getD initial) rest := by
  unfold lastNamed
  rw [List.reverse_cons, List.findSome?_append, List.findSome?_singleton]
  cases rest.reverse.findSome? named with
  | none => rfl
  | some v => rfl

/-- The last request decides, when it names the field. -/
theorem lastNamed_concat (p : ItemUomPatch) (rest : List ItemUomPatch) :
    lastNamed named initial (rest ++ [p]) = (named p).getD (lastNamed named initial rest) := by
  unfold lastNamed
  rw [List.reverse_append, List.reverse_singleton, List.singleton_append, List.findSome?_cons]
  cases named p with
  | none => rfl
  | some v => rfl

end LastNamed

/-- Every column is what the last request that named it said; a weight is
stored to three decimal places. -/
structure PatchFrames (u u' : UomRow) (requests : List ItemUomPatch) : Prop where
  uom : u'.uom = lastNamed (fun p => p.uom.join) u.uom requests
  ratioToBase : u'.ratioToBase = lastNamed (fun p => p.ratioToBase.join) u.ratioToBase requests
  displayName : u'.displayName = lastNamed ItemUomPatch.displayName u.displayName requests
  netWeightKg : u'.netWeightKg =
    lastNamed (fun p => p.netWeightKg.map netWeightColumn) u.netWeightKg requests
  isBase : u'.isBase = lastNamed (fun p => p.isBase.join) u.isBase requests
  isPurchaseDefault : u'.isPurchaseDefault =
    lastNamed (fun p => p.isPurchaseDefault.join) u.isPurchaseDefault requests
  isInboundDefault : u'.isInboundDefault =
    lastNamed (fun p => p.isInboundDefault.join) u.isInboundDefault requests
  isOutboundDefault : u'.isOutboundDefault =
    lastNamed (fun p => p.isOutboundDefault.join) u.isOutboundDefault requests

/-- The last request names the field, unless null is what it should hold. -/
def KeptAlong {α : Type} (named : ItemUomPatch → Option (Option α)) (initial : Option α)
    (requests : List ItemUomPatch) : Prop :=
  ∀ p ∈ requests.getLast?, named p = none → lastNamed named initial requests = none

/-- Both nullable columns are kept along. -/
def NullablesNamed (u : UomRow) (requests : List ItemUomPatch) : Prop :=
  KeptAlong ItemUomPatch.displayName u.displayName requests ∧
    KeptAlong (fun p => p.netWeightKg.map netWeightColumn) u.netWeightKg requests

/-! ## Runs -/

/-- What the accepted requests make of the unit, one after another. -/
theorem lookup_patchAll {n : Nat} {id : Int} {db db' : PmsDb} {u : UomRow}
    {requests accepted : List ItemUomPatch} (hu : db.uoms.lookup id = some u) (hr : u.Rounded)
    (h : patchAll n id db requests = (accepted, db')) :
    db'.uoms.lookup id = some (accepted.foldl (fun u p => p.row u) u) := by
  induction requests generalizing db u accepted with
  | nil =>
      cases h
      exact hu
  | cons p rest ih =>
      unfold patchAll at h
      split at h
      · rename_i hrun
        cases h
        rw [List.foldl_cons]
        exact ih (run_patchItemUomRoute_ok hu hr hrun) (p.row_rounded u) rfl
      · exact ih hu hr h

/-- A field that a request sets when it names it follows the last one. -/
theorem foldl_named {α : Type} (field : UomRow → α) {named : ItemUomPatch → Option α}
    (hstep : ∀ p u, field (p.row u) = (named p).getD (field u)) (requests : List ItemUomPatch)
    (u : UomRow) :
    field (requests.foldl (fun u p => p.row u) u) = lastNamed named (field u) requests := by
  induction requests generalizing u with
  | nil => rfl
  | cons p rest ih => rw [List.foldl_cons, ih, hstep, lastNamed_cons]

/-- A field that every request sets, to null when it leaves it out. -/
theorem foldl_nullable {α : Type} (field : UomRow → Option α)
    (named : ItemUomPatch → Option (Option α)) (hstep : ∀ p u, field (p.row u) = (named p).join)
    (requests : List ItemUomPatch) (u : UomRow) :
    field (requests.foldl (fun u p => p.row u) u) = lastNamed named (field u) requests ↔
      KeptAlong named (field u) requests := by
  induction requests using List.reverseRecOn with
  | nil => simp [KeptAlong]
  | append_singleton rest p _ =>
      rw [List.foldl_append, List.foldl_cons, List.foldl_nil, hstep, KeptAlong,
        List.getLast?_concat, lastNamed_concat]
      cases hp : named p with
      | none => simp [hp, eq_comm]
      | some v => simp [hp]

/-! ## Patches are frames when they name the nullable columns -/

/-- **Partial updates.** After any sequence of requests a unit holds what the
accepted ones said of it exactly when the last of them names the display name
and the net weight, where these are not null anyway. -/
theorem uom_patches {n : Nat} {id : Int} {db db' : PmsDb} {u : UomRow}
    {requests accepted : List ItemUomPatch} (hu : db.uoms.lookup id = some u) (hr : u.Rounded)
    (h : patchAll n id db requests = (accepted, db')) :
    (∃ u', db'.uoms.lookup id = some u' ∧ PatchFrames u u' accepted) ↔
      NullablesNamed u accepted := by
  have hlast := lookup_patchAll hu hr h
  have hname := foldl_nullable (fun u => u.displayName) ItemUomPatch.displayName
    (fun _ _ => rfl) accepted u
  have hweight := foldl_nullable (fun u => u.netWeightKg)
    (fun p => p.netWeightKg.map netWeightColumn) (fun p u => ?_) accepted u
  · constructor
    · rintro ⟨u', hu', hframes⟩
      rw [hlast] at hu'
      cases hu'
      exact ⟨hname.mp hframes.displayName, hweight.mp hframes.netWeightKg⟩
    · rintro ⟨hnamed, hweighed⟩
      exact ⟨_, hlast, {
        uom := foldl_named (fun u => u.uom) (fun _ _ => rfl) accepted u
        ratioToBase := foldl_named (fun u => u.ratioToBase) (fun _ _ => rfl) accepted u
        displayName := hname.mpr hnamed
        netWeightKg := hweight.mpr hweighed
        isBase := foldl_named (fun u => u.isBase) (fun _ _ => rfl) accepted u
        isPurchaseDefault := foldl_named (fun u => u.isPurchaseDefault) (fun _ _ => rfl) accepted u
        isInboundDefault := foldl_named (fun u => u.isInboundDefault) (fun _ _ => rfl) accepted u
        isOutboundDefault := foldl_named (fun u => u.isOutboundDefault) (fun _ _ => rfl) accepted u }⟩
  · show netWeightColumn p.netWeightKg.join = (p.netWeightKg.map netWeightColumn).join
    cases p.netWeightKg with
    | none => rfl
    | some w => rfl

/-- A carton of twelve with a name and a weight. -/
def sampleCarton : UomRow :=
  { id := 1, itemId := 1, uom := "CTN", displayName := some "carton", ratioToBase := 12
    isBase := false, netWeightKg := some (5 / 2), isPurchaseDefault := false
    isOutboundDefault := false }

def sampleCartonDb : PmsDb := { uoms := Table.empty.insert sampleCarton }

theorem sample_ratio_ge : ∀ r ∈ (some (some (24 : Int))).join, 1 ≤ r := by simp

theorem sample_no_weight : ∀ w ∈ (none : Option (Option ℚ)).join, 0 ≤ w := by simp

theorem sample_weight_ge : ∀ w ∈ (some (some (5 / 2 : ℚ))).join, 0 ≤ w := by norm_num

/-- A request that names the ratio only. -/
def sampleRatioPatch : ItemUomPatch where
  ratioToBase := some (some 24)
  ratio_ge := sample_ratio_ge
  netWeight_ge := sample_no_weight

/-- A request that names the ratio and repeats the rest. -/
def sampleFullPatch : ItemUomPatch where
  ratioToBase := some (some 24)
  displayName := some (some "carton")
  netWeightKg := some (some (5 / 2))
  ratio_ge := sample_ratio_ge
  netWeight_ge := sample_weight_ge

theorem sampleCarton_rounded : sampleCarton.Rounded := by
  show netWeightColumn (some (5 / 2)) = some (5 / 2)
  decide +kernel

theorem uom_patches_sample :
    ∃ u', (patchAll 1 1 sampleCartonDb [sampleRatioPatch, sampleFullPatch]).2.uoms.lookup 1 =
      some u' ∧ PatchFrames sampleCarton u' [sampleRatioPatch, sampleFullPatch] := by
  have haccepted : (patchAll 1 1 sampleCartonDb [sampleRatioPatch, sampleFullPatch]).1 =
      [sampleRatioPatch, sampleFullPatch] := rfl
  refine (uom_patches (show sampleCartonDb.uoms.lookup 1 = some sampleCarton from rfl)
    sampleCarton_rounded (Prod.ext haccepted rfl)).mpr ⟨?_, ?_⟩
  · intro p hp hnone
    cases hp
    cases hnone
  · intro p hp hnone
    cases hp
    cases hnone

/-- A new ratio erases the name and the weight. -/
theorem uom_patches_not :
    (patchAll 1 1 sampleCartonDb [sampleRatioPatch]).1 = [sampleRatioPatch] ∧
      ∃ u', (patchAll 1 1 sampleCartonDb [sampleRatioPatch]).2.uoms.lookup 1 = some u' ∧
        u'.ratioToBase = 24 ∧ u'.displayName = none ∧ u'.netWeightKg = none ∧
        ¬ PatchFrames sampleCarton u' [sampleRatioPatch] := by
  refine ⟨rfl, sampleRatioPatch.row sampleCarton, rfl, rfl, rfl, rfl, fun h => ?_⟩
  have hname := h.displayName
  cases hname

end WmsDu
