-- SUMMARY: Changes of buckets, counters and profiles that may change places.
import SipDialogs.Proofs.Contents
import SipDialogs.Proofs.Profiles

/-! # Changes that may change places

Dialogs that are found under different keys share buckets, locks, counters and profiles. Changes
under their keys still have the same outcome in either order, because a bucket is determined by
what is found in it, counters are only added to, and members are told by their numbers. -/

/-! ## Changes in arrays -/

namespace Array

variable {α : Type}

/-- Two changes in an array may change places if they do so wherever they meet. -/
theorem modify_comm {xs : Array α} {i j : Nat} {f g : α → α}
    (h : i = j → ∀ a, xs[i]? = some a → g (f a) = f (g a)) :
    (xs.modify i f).modify j g = (xs.modify j g).modify i f := by
  refine Array.ext_getElem? fun k => ?_
  simp only [Array.getElem?_modify]
  by_cases hi : i = k
  · by_cases hj : j = k
    · subst hj
      simp only [hi, if_true, Option.map_map]
      exact Option.map_congr fun a ha => h hi a (hi ▸ ha)
    · simp [hj]
  · simp [hi]

/-- A change of what has been changed is one change. -/
theorem modify_modify {xs : Array α} {i : Nat} {f g k : α → α}
    (h : ∀ a, xs[i]? = some a → g (f a) = k a) :
    (xs.modify i f).modify i g = xs.modify i k := by
  refine Array.ext_getElem? fun j => ?_
  simp only [Array.getElem?_modify]
  split
  next hi =>
    rw [Option.map_map]
    exact Option.map_congr fun a ha => h a (hi ▸ ha)
  · rfl

theorem modify_eq_self {xs : Array α} {i : Nat} {f : α → α}
    (h : ∀ a, xs[i]? = some a → f a = a) : xs.modify i f = xs := by
  refine Array.ext_getElem? fun j => ?_
  rw [Array.getElem?_modify]
  split
  next hi =>
    subst hi
    cases ha : xs[i]? with
    | none => rfl
    | some a => simp [h a ha]
  · rfl

end Array

namespace SipDialogs

/-! ## Changes of buckets -/

namespace LockSet

variable {β : Type} {s : LockSet (Array β)} {b c : Nat} {f g k : β → β}

@[simp] theorem slotIndex_modify {α : Type} (s : LockSet α) (b c : Nat) (f : α → α) :
    (s.modify b f).slotIndex c = s.slotIndex c := by
  simp [slotIndex, size, modify]

/-- Buckets behind one lock have slots of their own, so that changes of different
ones never meet. -/
theorem modify_comm (h : b = c → ∀ x, s.slot? b = some x → g (f x) = f (g x)) :
    (s.modify b (·.modify (s.slotIndex b) f)).modify c (·.modify (s.slotIndex c) g)
      = (s.modify c (·.modify (s.slotIndex c) g)).modify b (·.modify (s.slotIndex b) f) := by
  simp only [modify, lockIndex, size, Array.size_modify, mk.injEq]
  refine Array.modify_comm fun hlock stripe hstripe => Array.modify_comm fun hslot x hx => ?_
  have hbc : b = c := by
    by_contra hne
    exact slotIndex_ne s hne hlock hslot
  refine h hbc x ?_
  simp [slot?, stripe?, lockIndex, size, hstripe, hx]

theorem modify_modify (h : ∀ x, s.slot? b = some x → g (f x) = k x) :
    (s.modify b (·.modify (s.slotIndex b) f)).modify b (·.modify (s.slotIndex b) g)
      = s.modify b (·.modify (s.slotIndex b) k) := by
  simp only [modify, lockIndex, size, Array.size_modify, mk.injEq]
  refine Array.modify_modify fun stripe hstripe => Array.modify_modify fun x hx => h x ?_
  simp [slot?, stripe?, lockIndex, size, hstripe, hx]

theorem modify_eq_self (h : ∀ x, s.slot? b = some x → f x = x) :
    s.modify b (·.modify (s.slotIndex b) f) = s := by
  refine congrArg mk (Array.modify_eq_self fun stripe hstripe => ?_)
  refine Array.modify_eq_self fun x hx => h x ?_
  simp [slot?, stripe?, hstripe, hx]

end LockSet

namespace Bucket

/-- A bucket is determined by what is found under each number, and by its next number. -/
theorem Wf.ext {n : UInt32} {b b' : Bucket} (h : b.Wf n) (h' : b'.Wf n)
    (hnext : b.nextId = b'.nextId) (hfind : ∀ id, b.find? id = b'.find? id) : b = b' := by
  have hmem : ∀ d, d ∈ b.dialogs ↔ d ∈ b'.dialogs := by
    intro d
    have hd : b.find? d.key.localId = some d ↔ _ := h.find?_eq_some_iff
    have hd' : b'.find? d.key.localId = some d ↔ _ := h'.find?_eq_some_iff
    rw [hfind] at hd
    simpa using hd.symm.trans hd'
  have hnodup : ∀ {c : Bucket}, c.Wf n → c.dialogs.Nodup := fun hc =>
    hc.sorted.imp fun hlt heq => by simp [heq] at hlt
  have hperm : b.dialogs.Perm b'.dialogs :=
    (List.perm_ext_iff_of_nodup (hnodup h) (hnodup h')).2 hmem
  have hdialogs : b.dialogs = b'.dialogs := by
    refine hperm.eq_of_pairwise (fun d e _ _ hde hed => ?_) h.sorted h'.sorted
    simp only [decide_eq_true_eq] at hde hed
    exact absurd (UInt32.lt_trans hde hed) (UInt32.lt_irrefl _)
  cases b
  cases b'
  cases hnext
  cases hdialogs
  rfl

/-- Makes this stand under a number, or nothing. -/
def place (b : Bucket) (id : UInt32) : Option Dialog → Bucket
  | some d => b.put d
  | none => b.erase id

@[simp] theorem nextId_place (b : Bucket) (id : UInt32) (o : Option Dialog) :
    (b.place id o).nextId = b.nextId := by
  cases o <;> rfl

theorem find?_place (b : Bucket) {key : Key} {o : Option Dialog} (ho : ∀ d ∈ o, d.key = key)
    (id : UInt32) :
    (b.place key.localId o).find? id = if id = key.localId then o else b.find? id := by
  cases o with
  | none => exact b.find?_erase key.localId id
  | some d =>
    obtain rfl : d.key = key := ho d rfl
    exact b.find?_put d id

theorem Wf.place {n : UInt32} {b : Bucket} (h : b.Wf n) {key : Key} (hkey : key.bucket = n)
    {o : Option Dialog} (ho : ∀ d ∈ o, d.key = key) : (b.place key.localId o).Wf n := by
  cases o with
  | none => exact h.erase _
  | some d =>
    obtain rfl : d.key = key := ho d rfl
    exact h.put hkey

end Bucket

/-! ## What stands under a key -/

namespace Table

variable {t : Table} {key key' : Key} {o o' : Option Dialog}

theorem slot?_of_lt {n : UInt32} (hn : n < t.size) {b : Bucket}
    (hb : t.stripes.slot? n.toNat = some b) : t.bucket? n = some b := by
  rw [bucket?, if_pos hn]
  exact hb

theorem modifyBucket_comm {m n : UInt32} {f g : Bucket → Bucket}
    (h : m = n → ∀ b, t.bucket? m = some b → g (f b) = f (g b)) :
    (t.modifyBucket m f).modifyBucket n g = (t.modifyBucket n g).modifyBucket m f := by
  unfold modifyBucket
  by_cases hm : m < t.size
  · by_cases hn : n < t.size
    · simp only [hm, hn, if_true, LockSet.slotIndex_modify]
      rw [LockSet.modify_comm fun hmn b hb => h (UInt32.toNat_inj.1 hmn) b (slot?_of_lt hm hb)]
    · simp [hm, hn]
  · by_cases hn : n < t.size
    · simp [hm, hn]
    · simp [hm, hn]

theorem modifyBucket_modifyBucket {n : UInt32} {f g k : Bucket → Bucket}
    (h : ∀ b, t.bucket? n = some b → g (f b) = k b) :
    (t.modifyBucket n f).modifyBucket n g = t.modifyBucket n k := by
  unfold modifyBucket
  by_cases hn : n < t.size
  · simp only [hn, if_true, LockSet.slotIndex_modify]
    rw [LockSet.modify_modify fun b hb => h b (slot?_of_lt hn hb)]
  · simp [hn]

theorem modifyBucket_eq_self {n : UInt32} {f : Bucket → Bucket}
    (h : ∀ b, t.bucket? n = some b → f b = b) : t.modifyBucket n f = t := by
  unfold modifyBucket
  by_cases hn : n < t.size
  · simp only [hn, if_true]
    rw [LockSet.modify_eq_self fun b hb => h b (slot?_of_lt hn hb)]
  · simp [hn]

/-- Makes this stand under a key, or nothing. -/
def place (t : Table) (key : Key) (o : Option Dialog) : Table :=
  t.modifyBucket key.bucket (·.place key.localId o)

theorem place_some {d : Dialog} (hd : d.key = key) : t.place key (some d) = t.put d := by
  subst hd
  rfl

theorem Wf.place (h : t.Wf) (ho : ∀ d ∈ o, d.key = key) : (t.place key o).Wf :=
  h.modifyBucket fun _ hb => hb.place rfl ho

theorem find?_place (ho : ∀ d ∈ o, d.key = key ∧ (t.find? key).isSome) (k : Key) :
    (t.place key o).find? k = if k = key then o else t.find? k := by
  cases o with
  | none => exact find?_erase t key k
  | some d =>
    obtain ⟨rfl, hlinked⟩ := ho d rfl
    obtain ⟨e, he⟩ := Option.isSome_iff_exists.1 hlinked
    exact find?_put_of_linked he k

theorem takeLink_eq (t : Table) (key : Key) (chosen : Link → Bool) :
    t.takeLink key chosen = (t.find? key).bind fun d => (d.links.find? chosen).map fun l =>
      (l, t.put { d with links := d.links.eraseP chosen }) := by
  unfold takeLink
  cases t.find? key with
  | none => rfl
  | some d => cases hl : d.links.find? chosen <;> simp [hl]

/-- Dialogs under different keys may change places. -/
theorem Wf.place_comm (h : t.Wf) (hne : key ≠ key') (ho : ∀ d ∈ o, d.key = key)
    (ho' : ∀ d ∈ o', d.key = key') :
    (t.place key o).place key' o' = (t.place key' o').place key o := by
  refine modifyBucket_comm fun hbucket b hb => ?_
  have hwf : b.Wf key.bucket := h _ b hb
  have hid : key.localId ≠ key'.localId := fun heq => hne ((localId_eq_iff hbucket.symm).1 heq)
  refine ((hwf.place rfl ho).place hbucket.symm ho').ext
    ((hwf.place hbucket.symm ho').place rfl ho) (by simp) fun id => ?_
  simp only [Bucket.find?_place _ ho, Bucket.find?_place _ ho']
  by_cases hfirst : id = key.localId
  · simp [hfirst, hid]
  · simp [hfirst]

/-- What is placed last stands there. -/
theorem Wf.place_place (h : t.Wf) (ho : ∀ d ∈ o, d.key = key) (ho' : ∀ d ∈ o', d.key = key) :
    (t.place key o).place key o' = t.place key o' := by
  refine modifyBucket_modifyBucket fun b hb => ?_
  have hwf : b.Wf key.bucket := h _ b hb
  refine ((hwf.place rfl ho).place rfl ho').ext (hwf.place rfl ho') (by simp) fun id => ?_
  simp only [Bucket.find?_place _ ho, Bucket.find?_place _ ho']
  split <;> rfl

theorem Wf.place_self (h : t.Wf) (key : Key) : t.place key (t.find? key) = t := by
  have hkey : ∀ d ∈ t.find? key, d.key = key := fun d hd => h.key_of_find? hd
  refine modifyBucket_eq_self fun b hb => ?_
  have hwf : b.Wf key.bucket := h _ b hb
  refine (hwf.place rfl hkey).ext hwf (by simp) fun id => ?_
  rw [Bucket.find?_place _ hkey]
  split
  next hid =>
    subst hid
    rw [find?, hb]
    rfl
  · rfl

end Table

/-! ## Counters -/

namespace Counters

/-- Counts this much more. -/
def add (c more : Counters) : Counters where
  created := c.created + more.created
  destroyed := c.destroyed + more.destroyed
  invalidTransitions := c.invalidTransitions + more.invalidTransitions
  refAnomalies := c.refAnomalies + more.refAnomalies

/-- References taken or given back that nobody had, so many times. -/
def anomalies (n : Nat) : Counters := { refAnomalies := n }

theorem add_assoc (a b c : Counters) : (a.add b).add c = a.add (b.add c) := by
  simp only [add, Nat.add_assoc]

theorem add_comm (a b : Counters) : a.add b = b.add a := by
  simp only [add, Nat.add_comm]

end Counters

namespace Table

/-- The table with this much more counted. -/
def tally (t : Table) (c : Counters) : Table := t.count (·.add c)

theorem countDestroyed_eq (t : Table) : t.countDestroyed = t.tally { destroyed := 1 } := rfl

theorem tally_tally (t : Table) (c c' : Counters) :
    (t.tally c).tally c' = t.tally (c.add c') := by
  simp only [tally, count, Counters.add_assoc]

theorem modifyBucket_tally (t : Table) (n : UInt32) (f : Bucket → Bucket) (c : Counters) :
    (t.tally c).modifyBucket n f = (t.modifyBucket n f).tally c := by
  unfold modifyBucket
  by_cases hn : n < t.size
  · simp [tally, count, hn]
  · simp [tally, count, hn]

theorem place_tally (t : Table) (key : Key) (o : Option Dialog) (c : Counters) :
    (t.tally c).place key o = (t.place key o).tally c := modifyBucket_tally ..

theorem Wf.tally {t : Table} (h : t.Wf) (c : Counters) : (t.tally c).Wf := h

end Table

/-! ## Members -/

/-- Two removals by number may change places. -/
theorem Member.eraseP_comm (a b : Nat) (ms : List Member) :
    (ms.eraseP fun m => m.link == a).eraseP (fun m => m.link == b)
      = (ms.eraseP fun m => m.link == b).eraseP fun m => m.link == a := by
  by_cases hab : a = b
  · rw [hab]
  induction ms with
  | nil => rfl
  | cons m ms ih =>
    by_cases ha : m.link = a
    · simp [ha, hab]
    · by_cases hb : m.link = b
      · simp [hb, Ne.symm hab]
      · simpa [List.eraseP_cons, ha, hb] using ih

theorem Profile.removeMember_comm (p : Profile) (l l' : Link) :
    (p.removeMember l).removeMember l' = (p.removeMember l').removeMember l := by
  unfold removeMember
  congr 1
  exact Array.modify_comm fun _ ms _ => Member.eraseP_comm l.id l'.id ms

/-- The profile without the member of a link, if the link names it. -/
def Profile.without (l : Link) (p : Profile) : Profile :=
  if p.name = l.profile then p.removeMember l else p

theorem Profile.name_without (l : Link) (p : Profile) : (p.without l).name = p.name := by
  unfold without
  split <;> rfl

theorem Profile.without_comm (l l' : Link) (p : Profile) :
    (p.without l).without l' = (p.without l').without l := by
  have hname : ∀ k : Link, (p.removeMember k).name = p.name := fun _ => rfl
  unfold without
  by_cases hl : p.name = l.profile
  · by_cases hl' : p.name = l'.profile
    · simp only [if_pos hl, if_pos hl', hname, p.removeMember_comm l l']
    · simp only [if_pos hl, if_neg hl', hname]
  · by_cases hl' : p.name = l'.profile
    · simp only [if_neg hl, if_pos hl', hname]
    · simp only [if_neg hl, if_neg hl']

namespace Directory

variable {ps : Directory}

/-- The directory without the member of a link. -/
def without (ps : Directory) (l : Link) : Directory := ⟨ps.profiles.map (Profile.without l)⟩

instance : RightCommutative without where
  right_comm ps l l' := by
    simp only [without, List.map_map, mk.injEq]
    exact List.map_congr_left fun p _ => p.without_comm l l'

theorem names_without (ps : Directory) (l : Link) : (ps.without l).names = ps.names := by
  rw [names, without, List.map_map]
  exact List.map_congr_left fun p _ => p.name_without l

/-- Names are distinct, so a removal changes one profile at most. -/
theorem removeMembers_cons (h : ps.names.Nodup) (l : Link) (ls : List Link) :
    ps.removeMembers (l :: ls) = (ps.without l).removeMembers ls := by
  rw [removeMembers, List.foldl_cons, ← removeMembers]
  congr 1
  cases hsearch : ps.search? l.profile with
  | none =>
    have hnone : ∀ p ∈ ps.profiles, p.name ≠ l.profile := by
      simpa [search?, List.find?_eq_none] using hsearch
    have hself : ps.profiles.map (Profile.without l) = ps.profiles.map id :=
      List.map_congr_left fun p hp => if_neg (hnone p hp)
    rw [List.map_id] at hself
    exact congrArg mk hself.symm
  | some p =>
    have hp : p ∈ ps.profiles := List.mem_of_find?_eq_some hsearch
    have hname : p.name = l.profile := by simpa using List.find?_some hsearch
    refine congrArg mk (List.map_congr_left fun q hq => ?_)
    by_cases hnamed : q.name = l.profile
    · obtain rfl : q = p := List.inj_on_of_nodup_map h hq hp (hnamed.trans hname.symm)
      simp [Profile.without, Profile.removeMember, hnamed]
    · have hother : ¬q.name = p.name := fun heq => hnamed (heq.trans hname)
      simp [Profile.without, Profile.removeMember, hnamed, hother]

theorem removeMembers_eq (h : ps.names.Nodup) (ls : List Link) :
    ps.removeMembers ls = ls.foldl without ps := by
  induction ls generalizing ps with
  | nil => rfl
  | cons l ls ih =>
    rw [removeMembers_cons h, List.foldl_cons]
    exact ih (by rwa [names_without])

theorem removeMembers_append (ps : Directory) (ls ls' : List Link) :
    ps.removeMembers (ls ++ ls') = (ps.removeMembers ls).removeMembers ls' := List.foldl_append ..

/-- It makes no difference in which order members are removed. -/
theorem removeMembers_perm (h : ps.names.Nodup) {ls ls' : List Link} (hperm : ls.Perm ls') :
    ps.removeMembers ls = ps.removeMembers ls' := by
  rw [removeMembers_eq h, removeMembers_eq h]
  exact hperm.foldl_eq ps

/-- The test for the links that are memberships in a profile, of this value if it has values. -/
def owning (ps : Directory) (name : String) (value : Option String) :
    Except Fault (Link → Bool) := (ps.get name).map (·.owns value)

theorem owning_congr {ps' : Directory} (h : ps'.hasValue? = ps.hasValue?) :
    ps'.owning = ps.owning := by
  funext name value
  have hname := congrFun h name
  unfold hasValue? at hname
  have hfound : ∀ {qs : Directory} {p : Profile}, qs.search? name = some p → p.name = name :=
    fun hp => by simpa using List.find?_some hp
  unfold owning get
  cases hp : ps.search? name with
  | none =>
    cases hp' : ps'.search? name with
    | none => rfl
    | some p' => simp [hp, hp'] at hname
  | some p =>
    cases hp' : ps'.search? name with
    | none => simp [hp, hp'] at hname
    | some p' =>
      have hvalue : p'.hasValue = p.hasValue := by simpa [hp, hp'] using hname
      refine congrArg Except.ok (funext fun l => ?_)
      simp only [Profile.owns, hfound hp, hfound hp', hvalue]

end Directory

end SipDialogs
