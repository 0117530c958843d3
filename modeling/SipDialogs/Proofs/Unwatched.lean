-- SUMMARY: Dialogs without their observers: what the table does is the same for them.
import SipDialogs.Proofs.Ordered
import SipDialogs.Registry.Timers
import SipDialogs.Table.Lookup
import Mathlib.Data.List.Basic

/-! # Tables without observers

A dialog carries its own observers along, and no operation of the table looks at them: taking them
away first and last comes to the same. Each function has its law here, from single dialogs to
tables. -/

namespace SipDialogs

/-! ## Dialogs -/

namespace Dialog

/-- The dialog without observers of its own. -/
def unwatched (d : Dialog) : Dialog := { d with observers := [] }

variable (d : Dialog)

@[simp] theorem phase_unwatched : d.unwatched.phase = d.phase := rfl
@[simp] theorem flags_unwatched : d.unwatched.flags = d.flags := rfl
@[simp] theorem timer_unwatched : d.unwatched.timer = d.timer := rfl
@[simp] theorem links_unwatched : d.unwatched.links = d.links := rfl
@[simp] theorem snapshot_unwatched : d.unwatched.snapshot = d.snapshot := rfl

theorem unwatched_updateCseq (side : Leg) (cseq : String) :
    (d.updateCseq side cseq).unwatched = d.unwatched.updateCseq side cseq := by
  cases side <;> rfl

theorem unwatched_move (m : Transition) : (d.move m).unwatched = d.unwatched.move m :=
  apply_ite unwatched (d.phase = m.phase) _ _

theorem setLegInfo_unwatched (side : Leg) (info : LegInfo) :
    d.unwatched.setLegInfo side info = (d.setLegInfo side info).map unwatched := by
  cases side with
  | callee => rfl
  | caller =>
    rw [setLegInfo, setLegInfo, apply_ite (Except.map unwatched), apply_ite (Except.map unwatched)]
    rfl

theorem prepareTimer_unwatched (milliseconds : Option Nat) :
    Registry.prepareTimer d.unwatched milliseconds
      = (Registry.prepareTimer d milliseconds).map unwatched := by
  unfold Registry.prepareTimer
  rw [apply_ite (Except.map unwatched), apply_ite (Except.map unwatched)]
  cases milliseconds <;> rfl

end Dialog

/-! ## Buckets -/

namespace Bucket

/-- The bucket with the observers of its dialogs taken away. -/
def unwatched (b : Bucket) : Bucket := { b with dialogs := b.dialogs.map Dialog.unwatched }

variable (b : Bucket)

theorem find?_unwatched (id : UInt32) :
    b.unwatched.find? id = (b.find? id).map Dialog.unwatched := List.find?_map

theorem contains_unwatched (id : UInt32) : b.unwatched.contains id = b.contains id := by
  unfold contains
  rw [find?_unwatched, Option.isSome_map]

theorem freshId?_unwatched : b.unwatched.freshId? = b.freshId? := by
  unfold freshId?
  rw [contains_unwatched]
  rfl

theorem unwatched_put (d : Dialog) : (b.put d).unwatched = b.unwatched.put d.unwatched := by
  refine congrArg (fun ds => Bucket.mk ds b.nextId) (Ordered.map_insert ?_ d b.dialogs)
  exact fun _ _ => rfl

theorem unwatched_erase (id : UInt32) : (b.erase id).unwatched = b.unwatched.erase id := by
  simp only [unwatched, erase, List.filter_map]
  rfl

end Bucket

/-! ## Tables -/

/-- Changing an item goes along with a map that goes along with the change. -/
theorem LockSet.map_modify {α β : Type} {f : α → α} {g : β → β} {h : α → β}
    (hfg : ∀ a, h (f a) = g (h a)) (xs : Array α) (i : Nat) :
    (xs.modify i f).map h = (xs.map h).modify i g := by
  refine Array.ext_getElem? fun j => ?_
  simp only [Array.getElem?_map, Array.getElem?_modify]
  split
  · simp [Option.map_map, Function.comp_def, hfg]
  · rfl

namespace Table

/-- The table with the observers of its dialogs taken away. -/
def unwatched (t : Table) : Table :=
  { t with stripes := ⟨t.stripes.stripes.map fun stripe => stripe.map Bucket.unwatched⟩ }

variable (t : Table)

theorem unwatched_count (f : Counters → Counters) : (t.count f).unwatched = t.unwatched.count f :=
  rfl

theorem bucket?_unwatched (n : UInt32) :
    t.unwatched.bucket? n = (t.bucket? n).map Bucket.unwatched := by
  simp only [bucket?, unwatched, LockSet.stripe?, LockSet.lockIndex, LockSet.slotIndex,
    LockSet.size, Array.size_map, Array.getElem?_map]
  split
  · cases t.stripes.stripes[n.toNat % t.stripes.stripes.size]? with
    | none => rfl
    | some stripe => simp
  · rfl

theorem find?_unwatched (key : Key) :
    t.unwatched.find? key = (t.find? key).map Dialog.unwatched := by
  unfold find?
  rw [bucket?_unwatched]
  cases t.bucket? key.bucket with
  | none => rfl
  | some b => exact b.find?_unwatched key.localId

theorem buckets_unwatched : t.unwatched.buckets = t.buckets.map Bucket.unwatched := by
  unfold buckets
  rw [List.map_filterMap]
  exact List.filterMap_congr fun n _ => t.bucket?_unwatched _

theorem dialogs_unwatched : t.unwatched.dialogs = t.dialogs.map Dialog.unwatched := by
  unfold dialogs
  rw [buckets_unwatched, List.flatMap_map, List.map_flatMap]
  rfl

theorem unwatched_modifyBucket (n : UInt32) {f g : Bucket → Bucket}
    (hfg : ∀ b, (f b).unwatched = g b.unwatched) :
    (t.modifyBucket n f).unwatched = t.unwatched.modifyBucket n g := by
  have hstripe := fun stripe =>
    LockSet.map_modify hfg stripe (n.toNat / t.stripes.stripes.size)
  unfold modifyBucket
  rw [apply_ite unwatched]
  refine if_congr Iff.rfl ?_ rfl
  simp only [unwatched, LockSet.modify, LockSet.lockIndex, LockSet.slotIndex, LockSet.size,
    Array.size_map]
  rw [LockSet.map_modify (g := (·.modify (n.toNat / t.stripes.stripes.size) g)) hstripe]

theorem unwatched_put (d : Dialog) : (t.put d).unwatched = t.unwatched.put d.unwatched :=
  t.unwatched_modifyBucket _ fun b => b.unwatched_put d

theorem unwatched_erase (key : Key) : (t.erase key).unwatched = t.unwatched.erase key :=
  t.unwatched_modifyBucket _ fun b => b.unwatched_erase key.localId

/-- A new dialog has no observers. -/
theorem unwatched_link (d : Dialog) (hd : d.observers = []) (n id : UInt32) :
    (t.modifyBucket n fun b => (b.put d).passId id).unwatched
      = t.unwatched.modifyBucket n fun b => (b.put d).passId id := by
  have hself : d.unwatched = d := by rw [Dialog.unwatched, ← hd]
  refine t.unwatched_modifyBucket n fun b => ?_
  have hput := b.unwatched_put d
  rw [hself] at hput
  rw [← hput]
  rfl

theorem insert_unwatched (identity : Identity) (holders : Nat) (start : Timestamp) :
    t.unwatched.insert identity holders start
      = (t.insert identity holders start).map (Prod.map id unwatched) := by
  have hfresh : (t.unwatched.bucket? (t.home identity.callId identity.fromTag)).bind Bucket.freshId?
      = (t.bucket? (t.home identity.callId identity.fromTag)).bind Bucket.freshId? := by
    rw [bucket?_unwatched, Option.bind_map]
    exact Option.bind_congr fun b _ => b.freshId?_unwatched
  have hhome : t.unwatched.home = t.home := rfl
  unfold insert
  simp only [hhome, hfresh]
  cases (t.bucket? (t.home identity.callId identity.fromTag)).bind Bucket.freshId? with
  | none => rfl
  | some id =>
    have hlink := t.unwatched_link (Dialog.create ⟨t.home identity.callId identity.fromTag, id⟩
      identity holders start t.defaultTimeout) rfl (t.home identity.callId identity.fromTag) id
    simp only [Except.map, Prod.map, countCreated, unwatched_count, hlink]
    rfl

theorem restore_unwatched (s : Snapshot) :
    t.unwatched.restore s = (t.restore s).map (Prod.map id unwatched) := by
  unfold restore
  rw [bucket?_unwatched]
  cases t.bucket? s.key.bucket with
  | none => rfl
  | some b =>
    simp only [Option.map_some, Bucket.contains_unwatched]
    rw [apply_ite (Except.map (Prod.map id unwatched))]
    refine if_congr Iff.rfl rfl ?_
    simp only [Except.map, Prod.map, countCreated, unwatched_count,
      t.unwatched_link (Dialog.ofSnapshot s) rfl]
    rfl

theorem addRefs_unwatched (key : Key) (count : Nat) :
    t.unwatched.addRefs key count = (t.addRefs key count).map id unwatched := by
  unfold addRefs
  rw [find?_unwatched]
  cases t.find? key with
  | none => rfl
  | some d => exact congrArg (Prod.mk true) (t.unwatched_put (d.addRefs count)).symm

theorem release_unwatched (key : Key) (count : Nat) :
    t.unwatched.release key count
      = (t.release key count).map (Option.map Dialog.unwatched) unwatched := by
  unfold release
  rw [apply_ite (Prod.map (Option.map Dialog.unwatched) unwatched)]
  refine if_congr Iff.rfl rfl ?_
  rw [find?_unwatched]
  cases t.find? key with
  | none => rfl
  | some d =>
    have hcounted : (if d.unwatched.refs < count then t.unwatched.countAnomaly else t.unwatched)
        = (if d.refs < count then t.countAnomaly else t).unwatched :=
      (apply_ite unwatched (d.refs < count) t.countAnomaly t).symm
    simp only [Option.map_some]
    rw [hcounted, apply_ite (Prod.map (Option.map Dialog.unwatched) unwatched)]
    refine if_congr Iff.rfl ?_ ?_
    · exact congrArg (Prod.mk none) (unwatched_put _ { d with refs := d.refs - count }).symm
    · exact congrArg (Prod.mk _) (unwatched_erase _ key).symm

theorem applyEvent_unwatched (key : Key) (event : Event) :
    t.unwatched.applyEvent key event
      = (t.applyEvent key event).map (Option.map (Prod.map id Dialog.unwatched)) unwatched := by
  unfold applyEvent
  rw [find?_unwatched]
  cases t.find? key with
  | none => rfl
  | some d =>
    simp only [Option.map_some, Dialog.phase_unwatched, Dialog.flags_unwatched]
    cases d.phase.next? d.flags event with
    | none => rfl
    | some m =>
      simp only [← Dialog.unwatched_move, ← unwatched_put]
      rfl

theorem setLegInfo_unwatched (key : Key) (side : Leg) (info : LegInfo) :
    t.unwatched.setLegInfo key side info = (t.setLegInfo key side info).map unwatched := by
  unfold setLegInfo
  rw [find?_unwatched]
  cases t.find? key with
  | none => rfl
  | some d =>
    simp only [Option.map_some, Dialog.setLegInfo_unwatched]
    cases d.setLegInfo side info with
    | error e => rfl
    | ok d => exact congrArg Except.ok (t.unwatched_put d).symm

theorem updateCseq_unwatched (key : Key) (side : Leg) (cseq : String) :
    t.unwatched.updateCseq key side cseq = (t.updateCseq key side cseq).map unwatched := by
  unfold updateCseq
  rw [find?_unwatched]
  cases t.find? key with
  | none => rfl
  | some d =>
    simp only [Option.map_some, ← Dialog.unwatched_updateCseq, ← unwatched_put]
    rfl

theorem takeDirty_unwatched :
    t.unwatched.takeDirty = t.takeDirty.map id unwatched := by
  have hput : ∀ ds : List Dialog, ∀ t : Table,
      (ds.map Dialog.unwatched).foldl (fun t d => t.put d.clean) t.unwatched
        = (ds.foldl (fun t d => t.put d.clean) t).unwatched := by
    intro ds
    induction ds with
    | nil => exact fun _ => rfl
    | cons d ds ih =>
      intro t
      rw [List.map_cons, List.foldl_cons, List.foldl_cons, ← ih, unwatched_put]
      rfl
  unfold takeDirty
  rw [dialogs_unwatched, List.filter_map]
  simp only [List.map_map]
  exact Prod.ext rfl (hput _ t)

theorem pushLink_unwatched (key : Key) (l : Link) :
    t.unwatched.pushLink key l = (t.pushLink key l).map unwatched := by
  unfold pushLink
  rw [find?_unwatched, Option.map_map, Option.map_map]
  exact congrArg (Option.map · _) (funext fun d =>
    (t.unwatched_put { d with links := d.links ++ [l] }).symm)

theorem takeLink_unwatched (key : Key) (chosen : Link → Bool) :
    t.unwatched.takeLink key chosen = (t.takeLink key chosen).map (Prod.map id unwatched) := by
  unfold takeLink
  rw [find?_unwatched]
  cases t.find? key with
  | none => rfl
  | some d =>
    simp only [Option.map_some, Option.bind_eq_bind, Option.bind_some, Dialog.links_unwatched]
    cases d.links.find? chosen with
    | none => rfl
    | some l =>
      have hput := t.unwatched_put { d with links := d.links.eraseP chosen }
      exact congrArg (fun t => some (l, t)) hput.symm

theorem swapTimer_unwatched (key : Key) (expected : TimerSlot) (next : Option TimerSlot) :
    Registry.swapTimer t.unwatched key expected next
      = (Registry.swapTimer t key expected next).map unwatched := by
  unfold Registry.swapTimer
  rw [find?_unwatched]
  cases t.find? key with
  | none => rfl
  | some d =>
    simp only [Option.map_some, Dialog.timer_unwatched]
    rw [apply_ite (Option.map unwatched)]
    refine if_congr Iff.rfl ?_ rfl
    exact congrArg some (t.unwatched_put { d with timer := next }).symm

/-! ### Lookups -/

theorem unwatched_retain (d : Dialog) :
    (t.retain d).unwatched = t.unwatched.retain d.unwatched := t.unwatched_put _

theorem lookup_unwatched (key : Key) :
    t.unwatched.lookup key = (t.lookup key).map Dialog.unwatched := by
  unfold lookup
  rw [find?_unwatched, Option.filter_map]
  rfl

theorem liveMatch?_unwatched (n : UInt32) (callId fromTag toTag : String) :
    t.unwatched.liveMatch? n callId fromTag toTag
      = (t.liveMatch? n callId fromTag toTag).map (Prod.map Dialog.unwatched id) := by
  unfold liveMatch? firstMatch?
  rw [bucket?_unwatched]
  cases t.bucket? n with
  | none => rfl
  | some b =>
    have hfirst : b.unwatched.dialogs.findSome?
        (fun d => (d.direction? callId fromTag toTag).map fun way => (d, way))
          = (b.dialogs.findSome? fun d =>
              (d.direction? callId fromTag toTag).map fun way => (d, way)).map
              (Prod.map Dialog.unwatched id) := by
      rw [List.map_findSome?]
      show List.findSome? _ (b.dialogs.map _) = _
      rw [List.findSome?_map]
      congr 1
      funext d
      simp only [Function.comp_apply, Option.map_map]
      rfl
    simp only [Option.map_some, Option.bind_some, hfirst, Option.filter_map]
    rfl

theorem lookupIdentity_unwatched (callId fromTag toTag : String) :
    t.unwatched.lookupIdentity callId fromTag toTag
      = (t.lookupIdentity callId fromTag toTag).map (Prod.map Dialog.unwatched id) := by
  have hhome : t.unwatched.home = t.home := rfl
  unfold lookupIdentity
  simp only [hhome, liveMatch?_unwatched]
  cases t.liveMatch? (t.home callId fromTag) callId fromTag toTag with
  | some found => rfl
  | none =>
    simp only [Option.map_none]
    rw [apply_ite (Option.map (Prod.map Dialog.unwatched id))]
    rfl

theorem firstDownstream?_unwatched (b : Bucket) (callId : String) (fromTag : Option String) :
    firstDownstream? b.unwatched callId fromTag
      = (firstDownstream? b callId fromTag).map Dialog.unwatched := List.find?_map

theorem lookupDownstream_unwatched (callId : String) (fromTag : Option String) :
    t.unwatched.lookupDownstream callId fromTag
      = (t.lookupDownstream callId fromTag).map Dialog.unwatched := by
  have hhome : t.unwatched.home = t.home := rfl
  unfold lookupDownstream
  cases fromTag with
  | some tag =>
    simp only [hhome, bucket?_unwatched]
    cases t.bucket? (t.home callId tag) with
    | none => rfl
    | some b =>
      simp only [Option.map_some, Option.bind_some, firstDownstream?_unwatched, Option.filter_map]
      rfl
  | none =>
    have hfirst : t.unwatched.buckets.findSome? (fun b => firstDownstream? b callId none)
        = (t.buckets.findSome? fun b => firstDownstream? b callId none).map Dialog.unwatched := by
      rw [buckets_unwatched, List.findSome?_map, List.map_findSome?]
      exact congrArg (List.findSome? · _) (funext fun b => firstDownstream?_unwatched b callId none)
    simp only [hfirst, Option.filter_map]
    rfl

end Table
end SipDialogs
