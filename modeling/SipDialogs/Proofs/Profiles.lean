-- SUMMARY: The profile's half of memberships: the members it has for the links of dialogs.
import SipDialogs.Profile.Directory
import Mathlib.Data.Multiset.Filter
import Mathlib.Data.Multiset.UnionInter

/-! # Profiles and their members

Dialogs hold links, profiles hold members, and nothing but a number ties the two together. A profile
keeps a multiset of links if its members are those links, number by number, each in the bucket
where it is looked for. Making and removing a member keep this in step with the links. -/

namespace SipDialogs

/-- What a profile holds for a link of a dialog. -/
def Link.member (key : Key) (l : Link) : Member := ⟨l.id, key, l.value⟩

namespace Profile

variable {p : Profile}

/-! ## Numbers, values and buckets -/

theorem newLink_eq_ok {p numbered : Profile} {key : Key} {value : Option String} {l : Link}
    (h : p.newLink key value = .ok (l, numbered)) :
    (p.hasValue = true → value.isSome = true) ∧
    l = ⟨p.nextLink, p.name, p.valueOf value, p.bucketFor (p.valueOf value) key⟩ ∧
    numbered = { p with nextLink := p.nextLink + 1 } := by
  unfold newLink at h
  split at h
  · cases h
  next hgiven =>
    cases h
    refine ⟨fun hvalue => ?_, rfl, rfl⟩
    cases value with
    | none => simp [hvalue] at hgiven
    | some v => rfl

@[simp] theorem valueOf_valueOf (p : Profile) (value : Option String) :
    p.valueOf (p.valueOf value) = p.valueOf value := by
  unfold valueOf
  split <;> rfl

@[simp] theorem valueOf_none (p : Profile) : p.valueOf none = none := by
  unfold valueOf
  split <;> rfl

theorem valueOf_of_hasValue (h : p.hasValue = true) (value : Option String) :
    p.valueOf value = value := if_pos h

theorem valueOf_of_not_hasValue (h : p.hasValue = false) (value : Option String) :
    p.valueOf value = none := by
  simp [valueOf, h]

/-- A link of this profile is owned under every value that counts the same as its own. -/
theorem owns_iff {value : Option String} {l : Link}
    (hl : l.profile = p.name → l.value = p.valueOf l.value) :
    p.owns value l = true ↔ l.profile = p.name ∧ l.value = p.valueOf value := by
  unfold owns valueOf at *
  cases hvalue : p.hasValue with
  | true => simp
  | false =>
    have hnone : l.profile = p.name → l.value = none := by
      intro hname
      simpa [hvalue] using hl hname
    simpa using hnone

theorem bucketFor_lt (hpos : 0 < p.size.toNat) (value : Option String) (key : Key) :
    (p.bucketFor value key).toNat < p.size.toNat := by
  have hmod : ∀ n : UInt32, (n % p.size).toNat < p.size.toNat := by
    intro n
    rw [UInt32.toNat_mod]
    exact Nat.mod_lt _ hpos
  unfold bucketFor
  split
  · exact hmod _
  · exact hmod _

/-- The bucket of a value does not depend on the dialog. -/
theorem bucketFor_of_hasValue (hvalue : p.hasValue = true) (v : String) (key : Key) :
    p.bucketFor (some v) key = Hash.texts v none p.size := by
  simp [bucketFor, hvalue]

/-! ## Members -/

/-- A link as this profile makes them. -/
structure Made (p : Profile) (key : Key) (l : Link) : Prop where
  value : l.value = p.valueOf l.value
  given : p.hasValue = true → l.value.isSome = true
  bucket : l.bucket = p.bucketFor l.value key
  id : l.id < p.nextLink

/-- Links are made once and for all, whatever members come and go. -/
theorem Made.later {key : Key} {l : Link} (h : p.Made key l) {n : Nat} (hn : p.nextLink ≤ n)
    (buckets : Array (List Member)) :
    ({ p with nextLink := n, buckets := buckets } : Profile).Made key l :=
  ⟨h.value, h.given, h.bucket, Nat.lt_of_lt_of_le h.id hn⟩

/-- A profile has a member for each of these links and no others, and looks for each where it is. -/
structure Keeps (p : Profile) (held : Multiset (Key × Link)) : Prop where
  positive : 0 < p.size.toNat
  size : p.buckets.size = p.size.toNat
  members : (p.members : Multiset Member) = held.map fun h => h.2.member h.1
  placed : ∀ {i b m}, p.buckets[i]? = some b → m ∈ b →
    i = (p.bucketFor m.value m.dialog).toNat
  made : ∀ h ∈ held, p.Made h.1 h.2
  distinct : (held.map fun h => h.2.id).Nodup

theorem isPowerOfTwo_pos {n : UInt32} (h : isPowerOfTwo n = true) : 0 < n.toNat := by
  have hne : n ≠ 0 := by
    rintro rfl
    exact absurd h (by decide)
  refine Nat.pos_of_ne_zero fun hzero => hne ?_
  exact UInt32.toNat_inj.1 hzero

/-- A new profile keeps nothing. -/
theorem keeps_create {name : String} {size : UInt32} {hasValue : Bool}
    (h : create name size hasValue = .ok p) : p.name = name ∧ p.Keeps 0 := by
  unfold create at h
  split at h
  · cases h
  split at h
  · cases h
  split at h
  next hsize =>
    cases h
    refine ⟨rfl, isPowerOfTwo_pos hsize, by simp, by simp [Profile.members], ?_, by simp, by simp⟩
    intro i b m hb hm
    obtain rfl := (Array.mem_replicate.1 (Array.mem_of_getElem? hb)).2
    cases hm
  · cases h

/-- A change of one bucket, seen among all members: those of the other buckets are the rest. -/
theorem members_modify (p : Profile) {i : Nat} (h : i < p.buckets.size)
    (f : List Member → List Member) :
    ∃ b rest, p.buckets[i]? = some b ∧ p.members.Perm (b ++ rest) ∧
      ({ p with buckets := p.buckets.modify i f } : Profile).members.Perm (f b ++ rest) ∧
      ∀ m ∈ rest, ∃ j c, j ≠ i ∧ p.buckets[j]? = some c ∧ m ∈ c := by
  obtain ⟨before, b, after, hsplit, hlength, hmodify⟩ :=
    List.exists_of_modify f (l := p.buckets.toList) (by simpa using h)
  have hswap : ∀ c : List Member,
      (before ++ c :: after).flatten.Perm (c ++ (before.flatten ++ after.flatten)) := by
    intro c
    rw [List.flatten_append, List.flatten_cons, ← List.append_assoc, ← List.append_assoc]
    exact List.perm_append_comm.append_right _
  have hat : ∀ j : Nat, p.buckets[j]? = (before ++ b :: after)[j]? := by
    intro j
    simp [← Array.getElem?_toList, hsplit]
  refine ⟨b, before.flatten ++ after.flatten, ?_, ?_, ?_, ?_⟩
  · rw [hat, ← hlength]
    simp
  · rw [Profile.members, hsplit]
    exact hswap b
  · rw [Profile.members, Array.toList_modify, hmodify]
    exact hswap (f b)
  · intro m hm
    rcases List.mem_append.1 hm with hm | hm
    · obtain ⟨c, hc, hm⟩ := List.mem_flatten.1 hm
      obtain ⟨j, hj, rfl⟩ := List.getElem_of_mem hc
      refine ⟨j, before[j], by omega, ?_, hm⟩
      simp [hat, List.getElem?_append_left hj, List.getElem?_eq_getElem hj]
    · obtain ⟨c, hc, hm⟩ := List.mem_flatten.1 hm
      obtain ⟨j, hj, rfl⟩ := List.getElem_of_mem hc
      refine ⟨before.length + (j + 1), after[j], by omega, ?_, hm⟩
      rw [hat, List.getElem?_append_right (Nat.le_add_right _ _), Nat.add_sub_cancel_left,
        List.getElem?_cons_succ, List.getElem?_eq_getElem hj]

/-- A profile looks for the members of a changed bucket where it did, unless they are new. -/
theorem placed_modify {held : Multiset (Key × Link)} (h : p.Keeps held) {i : Nat}
    {f : List Member → List Member}
    (hf : ∀ b, ∀ m ∈ f b, m ∈ b ∨ i = (p.bucketFor m.value m.dialog).toNat) {j : Nat}
    {b : List Member} {m : Member} (hb : (p.buckets.modify i f)[j]? = some b) (hm : m ∈ b) :
    j = (p.bucketFor m.value m.dialog).toNat := by
  rw [Array.getElem?_modify] at hb
  split at hb
  next heq =>
    obtain ⟨c, hc, rfl⟩ := Option.map_eq_some_iff.1 hb
    rcases hf c m hm with hold | hnew
    · exact h.placed (heq ▸ hc) hold
    · exact heq ▸ hnew
  · exact h.placed hb hm

namespace Keeps

variable {held : Multiset (Key × Link)}

/-- A new member has a new number. -/
theorem add (h : p.Keeps held) {numbered : Profile} {key : Key} {value : Option String} {l : Link}
    (hlink : p.newLink key value = .ok (l, numbered)) :
    (numbered.addMember l key).Keeps ((key, l) ::ₘ held) := by
  obtain ⟨hgiven, hl, rfl⟩ := newLink_eq_ok hlink
  have hplace : l.bucket.toNat < p.buckets.size := by
    rw [hl, h.size]
    exact bucketFor_lt h.positive _ _
  have hbucket : l.bucket = p.bucketFor l.value key := by rw [hl]
  obtain ⟨b, rest, -, hbefore, hafter, -⟩ :=
    p.members_modify hplace (· ++ [(⟨l.id, key, l.value⟩ : Member)])
  constructor
  · exact h.positive
  · simpa [addMember] using h.size
  · have hmembers : ((b ++ [⟨l.id, key, l.value⟩] ++ rest : List Member) : Multiset Member)
        = l.member key ::ₘ (p.members : Multiset Member) := by
      rw [Multiset.coe_eq_coe.2 hbefore, Multiset.cons_coe, Multiset.coe_eq_coe,
        List.append_assoc]
      exact List.perm_middle
    rw [Multiset.map_cons, ← h.members]
    exact (Multiset.coe_eq_coe.2 hafter).trans hmembers
  · intro i c m hc hm
    refine placed_modify h (fun b m hm => ?_) hc hm
    rcases List.mem_append.1 hm with hold | hnew
    · exact .inl hold
    · obtain rfl := List.mem_singleton.1 hnew
      exact .inr (congrArg UInt32.toNat hbucket)
  · intro x hx
    rcases Multiset.mem_cons.1 hx with rfl | hx
    · refine ⟨?_, ?_, hbucket, ?_⟩
      · rw [hl]
        exact (p.valueOf_valueOf value).symm
      · intro hvalue
        rw [hl]
        dsimp only
        rw [valueOf_of_hasValue (p := p) hvalue]
        exact hgiven hvalue
      · rw [hl]
        exact Nat.lt_succ_self _
    · exact (h.made x hx).later (Nat.le_succ _) _
  · rw [Multiset.map_cons, Multiset.nodup_cons]
    refine ⟨fun hmem => ?_, h.distinct⟩
    obtain ⟨x, hx, hid⟩ := Multiset.mem_map.1 hmem
    have hlt := (h.made x hx).id
    rw [hid, hl] at hlt
    exact Nat.lt_irrefl _ hlt

/-- The member of a link is in the link's bucket, and no other there has its number. -/
theorem bucket_of_held (h : p.Keeps held) {key : Key} {l : Link} (hheld : (key, l) ∈ held)
    {b : List Member} (hb : p.buckets[l.bucket.toNat]? = some b) :
    l.member key ∈ b ∧ ∀ m ∈ b, m.link = l.id → m = l.member key := by
  have hmember : ∀ m, m ∈ p.members ↔ ∃ x ∈ held, x.2.member x.1 = m := by
    intro m
    simp [← Multiset.mem_coe, h.members, Multiset.mem_map]
  have hown : l.member key ∈ p.members := (hmember _).2 ⟨_, hheld, rfl⟩
  constructor
  · obtain ⟨c, hc, hm⟩ := List.mem_flatten.1 hown
    obtain ⟨i, hi⟩ := Array.mem_iff_getElem?.1 (Array.mem_toList_iff.1 hc)
    have hi' := h.placed hi hm
    rw [Link.member, ← (h.made _ hheld).bucket] at hi'
    rw [hi', hb] at hi
    cases hi
    exact hm
  · intro m hm hid
    have hmem : m ∈ p.members :=
      List.mem_flatten.2 ⟨b, Array.mem_toList_iff.2 (Array.mem_of_getElem? hb), hm⟩
    obtain ⟨x, hx, rfl⟩ := (hmember m).1 hmem
    obtain rfl : x = (key, l) := Multiset.inj_on_of_nodup_map h.distinct x hx _ hheld hid
    rfl

/-- Removing a link's member leaves the members of the others. -/
theorem remove {key : Key} {l : Link} (h : p.Keeps ((key, l) ::ₘ held)) :
    (p.removeMember l).Keeps held := by
  have hheld : (key, l) ∈ (key, l) ::ₘ held := Multiset.mem_cons_self _ _
  have hplace : l.bucket.toNat < p.buckets.size := by
    rw [(h.made _ hheld).bucket, h.size]
    exact bucketFor_lt h.positive _ _
  obtain ⟨b, rest, hb, hbefore, hafter, -⟩ :=
    p.members_modify hplace (List.eraseP fun m => m.link == l.id)
  obtain ⟨hmem, honly⟩ := h.bucket_of_held hheld hb
  have herase : b.Perm (l.member key :: b.eraseP fun m => m.link == l.id) := by
    obtain ⟨m, front, back, -, hid, hsplit, hback⟩ :=
      List.exists_of_eraseP (p := fun m => m.link == l.id) hmem (by simp [Link.member])
    obtain rfl : m = l.member key := honly m (by simp [hsplit]) (by simpa using hid)
    rw [hback, hsplit]
    exact List.perm_middle
  constructor
  · exact h.positive
  · simpa [removeMember] using h.size
  · have hmembers : l.member key ::ₘ ((p.removeMember l).members : Multiset Member)
        = l.member key ::ₘ held.map fun x => x.2.member x.1 := by
      rw [← Multiset.map_cons (fun x : Key × Link => x.2.member x.1) (key, l), ← h.members,
        Multiset.cons_coe, Multiset.coe_eq_coe]
      exact (hafter.cons _).trans ((herase.append_right rest).symm.trans hbefore.symm)
    exact (Multiset.cons_inj_right _).1 hmembers
  · intro i c m hc hm
    exact placed_modify h (fun b m hm => .inl (List.mem_of_mem_eraseP hm)) hc hm
  · intro x hx
    exact (h.made x (Multiset.mem_cons_of_mem hx)).later (Nat.le_refl _) _
  · have hdistinct := h.distinct
    rw [Multiset.map_cons, Multiset.nodup_cons] at hdistinct
    exact hdistinct.2

end Keeps

/-! ## Counting -/

/-- Whether a member counts under a value; every member does if no value counts. -/
def selects (p : Profile) (value : Option String) (m : Member) : Bool :=
  (p.valueOf value).isNone || m.value == p.valueOf value

theorem selects_of_none {value : Option String} (h : p.valueOf value = none) (m : Member) :
    p.selects value m = true := by
  simp [selects, h]

theorem selects_of_some {value : Option String} {v : String} (h : p.valueOf value = some v)
    (m : Member) : p.selects value m = (m.value == some v) := by
  simp [selects, h]

/-- Under a value that was given, or where values do not matter, a member counts for its value. -/
theorem Keeps.selects_eq {held : Multiset (Key × Link)} (h : p.Keeps held) {value : Option String}
    (hgiven : p.hasValue = true → value.isSome = true) {m : Member} (hm : m ∈ p.members) :
    p.selects value m = (m.value == p.valueOf value) := by
  cases hvalue : p.valueOf value with
  | some v => exact selects_of_some hvalue m
  | none =>
    have hno : p.hasValue = false := by
      by_contra hhas
      rw [Bool.not_eq_false] at hhas
      rw [valueOf_of_hasValue hhas] at hvalue
      simpa [hvalue] using hgiven hhas
    obtain ⟨x, hx, rfl⟩ := Multiset.mem_map.1 (h.members ▸ Multiset.mem_coe.2 hm)
    have hnone : x.2.value = none := by
      rw [(h.made x hx).value, valueOf_of_not_hasValue hno]
    rw [selects_of_none hvalue, Link.member, hnone]
    rfl

/-- To count a value in its own bucket is to count it among all members. -/
theorem Keeps.count_eq {held : Multiset (Key × Link)} (h : p.Keeps held)
    (value : Option String) : p.count value = p.members.countP (p.selects value) := by
  unfold count
  cases hvalue : p.valueOf value with
  | none =>
    have hall : ∀ m ∈ p.members, p.selects value m = true :=
      fun m _ => selects_of_none hvalue m
    rw [List.countP_eq_length.2 hall, Profile.members, List.length_flatten]
    rfl
  | some v =>
    have hhas : p.hasValue = true := by
      by_contra hno
      rw [valueOf_of_not_hasValue (Bool.not_eq_true _ ▸ hno)] at hvalue
      cases hvalue
    have hplace : (Hash.texts v none p.size).toNat < p.buckets.size := by
      rw [h.size, ← bucketFor_of_hasValue hhas v ⟨0, 0⟩]
      exact bucketFor_lt h.positive _ _
    obtain ⟨b, rest, hb, hmembers, -, helsewhere⟩ := p.members_modify hplace id
    have hrest : rest.countP (p.selects value) = 0 := by
      apply List.countP_eq_zero.2
      intro m hm hselects
      obtain ⟨j, c, hne, hc, hm⟩ := helsewhere m hm
      rw [selects_of_some hvalue, beq_iff_eq] at hselects
      have hj := h.placed hc hm
      rw [hselects, bucketFor_of_hasValue hhas] at hj
      exact hne hj
    have hselects : p.selects value = fun m => m.value == some v :=
      funext (selects_of_some hvalue)
    dsimp only
    rw [hmembers.countP_eq, List.countP_append, hrest, hb, hselects, Nat.add_zero]

theorem length_dialogs (p : Profile) (value : Option String) :
    (p.dialogs value).length = p.members.countP (p.selects value) := by
  rw [dialogs, List.length_map, ← List.countP_eq_length_filter]
  rfl

theorem count_dialogs (p : Profile) (value : Option String) (key : Key) :
    (p.dialogs value).count key
      = p.members.countP fun m => m.dialog == key && p.selects value m := by
  rw [dialogs, List.count, List.countP_map, List.countP_filter]
  rfl

/-- The counts of the buckets add up to the count of the profile. -/
theorem foldr_bucketCounts (p : Profile) :
    p.bucketCounts.foldr (· + ·) 0 = p.members.length := by
  rw [bucketCounts, Profile.members, List.length_flatten]
  rfl

end Profile

/-! ## Directories -/

namespace Directory

variable {ps : Directory}

theorem get_eq_ok {name : String} {p : Profile} (h : ps.get name = .ok p) :
    ps.search? name = some p ∧ p ∈ ps.profiles ∧ p.name = name := by
  unfold get at h
  split at h
  next q hq =>
    cases h
    exact ⟨hq, List.mem_of_find?_eq_some hq, by simpa using List.find?_some hq⟩
  · cases h

/-- What stands in the place of a profile once `p` is put. -/
def place (p q : Profile) : Profile := if q.name == p.name then p else q

theorem put_eq (ps : Directory) (p : Profile) : ps.put p = ⟨ps.profiles.map (place p)⟩ := rfl

theorem name_place (p q : Profile) : (place p q).name = q.name := by
  unfold place
  split
  next heq => exact (beq_iff_eq.1 heq).symm
  · rfl

theorem names_put (ps : Directory) (p : Profile) : (ps.put p).names = ps.names := by
  rw [names, put_eq, List.map_map]
  exact List.map_congr_left fun q _ => name_place p q

theorem search?_put (ps : Directory) (p : Profile) (name : String) :
    (ps.put p).search? name = (ps.search? name).map (place p) := by
  rw [search?, put_eq, List.find?_map, search?]
  congr 2
  funext q
  simp [Function.comp_apply, name_place]

theorem mem_put {p q : Profile} (h : q ∈ (ps.put p).profiles) :
    q = p ∨ q ∈ ps.profiles ∧ q.name ≠ p.name := by
  obtain ⟨x, hx, rfl⟩ := List.mem_map.1 h
  split
  · exact .inl rfl
  next hne => exact .inr ⟨hx, fun heq => hne (beq_iff_eq.2 heq)⟩

/-- Whether the members of a profile have values, if there is such a profile. -/
def hasValue? (ps : Directory) (name : String) : Option Bool :=
  (ps.search? name).map (·.hasValue)

/-- A profile that takes the place of another keeps its name, and with it whether it has values. -/
theorem hasValue?_put {p q : Profile} (hq : ps.search? q.name = some q) (hname : p.name = q.name)
    (hvalue : p.hasValue = q.hasValue) (name : String) :
    (ps.put p).hasValue? name = ps.hasValue? name := by
  rw [hasValue?, hasValue?, search?_put, Option.map_map]
  apply Option.map_congr
  intro x hx
  rw [Function.comp_apply]
  unfold place
  split
  next heq =>
    have hfound : x.name = name := by simpa using List.find?_some hx
    rw [← hfound, beq_iff_eq.1 heq, hname, hq] at hx
    cases hx
    exact hvalue
  · rfl

theorem names_removeMembers (ps : Directory) (links : List Link) :
    (ps.removeMembers links).names = ps.names := by
  induction links generalizing ps with
  | nil => rfl
  | cons l links ih =>
    refine (ih _).trans ?_
    dsimp only
    split
    · exact names_put ..
    · rfl

theorem hasValue?_removeMembers (ps : Directory) (links : List Link) (name : String) :
    (ps.removeMembers links).hasValue? name = ps.hasValue? name := by
  induction links generalizing ps with
  | nil => rfl
  | cons l links ih =>
    refine (ih _).trans ?_
    dsimp only
    split
    next p hp =>
      have hname : p.name = l.profile := by simpa using List.find?_some hp
      rw [← hname] at hp
      exact hasValue?_put (p := p.removeMember l) hp rfl rfl name
    next => rfl

/-- The links that name a profile. -/
def linksOf (held : Multiset (Key × Link)) (name : String) : Multiset (Key × Link) :=
  held.filter fun h => h.2.profile = name

theorem linksOf_cons_self (held : Multiset (Key × Link)) (key : Key) (l : Link) :
    linksOf ((key, l) ::ₘ held) l.profile = (key, l) ::ₘ linksOf held l.profile :=
  Multiset.filter_cons_of_pos held rfl

theorem linksOf_cons_of_ne (held : Multiset (Key × Link)) (key : Key) {l : Link} {name : String}
    (h : name ≠ l.profile) : linksOf ((key, l) ::ₘ held) name = linksOf held name :=
  Multiset.filter_cons_of_neg held h.symm

/-- Every profile of the directory keeps the links that name it. -/
structure Files (ps : Directory) (held : Multiset (Key × Link)) : Prop where
  distinct : ps.names.Nodup
  keeps : ∀ p ∈ ps.profiles, p.Keeps (linksOf held p.name)

namespace Files

variable {held held' : Multiset (Key × Link)}

/-- A profile changes together with the links that name it. -/
theorem put (h : ps.Files held) {p : Profile} (hp : p.Keeps (linksOf held' p.name))
    (hothers : ∀ name, name ≠ p.name → linksOf held' name = linksOf held name) :
    (ps.put p).Files held' where
  distinct := by
    rw [names_put]
    exact h.distinct
  keeps := by
    intro q hq
    rcases mem_put hq with rfl | ⟨hq, hne⟩
    · exact hp
    · rw [hothers q.name hne]
      exact h.keeps q hq

/-- A membership whose dialog is gone is taken back. -/
theorem takeBack (h : ps.Files held) {name : String} {p numbered : Profile} {key : Key}
    {value : Option String} {l : Link} (hget : ps.get name = .ok p)
    (hlink : p.newLink key value = .ok (l, numbered)) :
    (ps.put ((numbered.addMember l key).removeMember l)).Files held := by
  obtain ⟨-, -, hnumbered⟩ := Profile.newLink_eq_ok hlink
  have hname : ((numbered.addMember l key).removeMember l).name = p.name := by
    rw [hnumbered]
    rfl
  refine h.put ?_ fun _ _ => rfl
  rw [hname]
  exact ((h.keeps p (get_eq_ok hget).2.1).add hlink).remove

theorem attach (h : ps.Files held) {name : String} {p numbered : Profile} {key : Key}
    {value : Option String} {l : Link} (hget : ps.get name = .ok p)
    (hlink : p.newLink key value = .ok (l, numbered)) :
    (ps.put (numbered.addMember l key)).Files ((key, l) ::ₘ held) := by
  obtain ⟨-, hl, hnumbered⟩ := Profile.newLink_eq_ok hlink
  have hprofile : l.profile = p.name := by rw [hl]
  have hname : (numbered.addMember l key).name = l.profile := by
    rw [hnumbered, hprofile]
    rfl
  refine h.put ?_ fun name hne => linksOf_cons_of_ne held key (hname ▸ hne)
  rw [hname, linksOf_cons_self, hprofile]
  exact (h.keeps p (get_eq_ok hget).2.1).add hlink

/-- Links that are given up lose their members, one after another. -/
theorem removeMembers {key : Key} (links : List Link)
    (h : ps.Files ((links.map fun l => (key, l) : List (Key × Link)) + held)) :
    (ps.removeMembers links).Files held := by
  induction links generalizing ps with
  | nil =>
    rw [List.map_nil, Multiset.coe_nil, Multiset.zero_add] at h
    exact h
  | cons l links ih =>
    rw [List.map_cons, ← Multiset.cons_coe, Multiset.cons_add] at h
    refine ih ?_
    dsimp only
    have hothers : ∀ name, name ≠ l.profile →
        linksOf ((links.map fun l => (key, l) : List (Key × Link)) + held) name
          = linksOf ((key, l) ::ₘ ((links.map fun l => (key, l) : List (Key × Link)) + held))
              name :=
      fun name hne => (linksOf_cons_of_ne _ key hne).symm
    cases hsearch : ps.search? l.profile with
    | none =>
      refine ⟨h.distinct, fun q hq => ?_⟩
      have hne : q.name ≠ l.profile := by
        simpa using List.find?_eq_none.1 hsearch q hq
      rw [hothers q.name hne]
      exact h.keeps q hq
    | some p =>
      have hname : p.name = l.profile := by simpa using List.find?_some hsearch
      refine h.put (p := p.removeMember l) ?_ (fun name hne => hothers name (hname ▸ hne))
      have hkeeps := h.keeps p (List.mem_of_find?_eq_some hsearch)
      rw [hname, linksOf_cons_self] at hkeeps
      exact hname ▸ hkeeps.remove

end Files

/-! ### New directories -/

theorem register_files {name : String} {size : UInt32} {hasValue : Bool} {ps' : Directory}
    (h : ps.Files 0) (hregister : ps.register name size hasValue = .ok ps') : ps'.Files 0 := by
  unfold register at hregister
  split at hregister
  · cases hregister
  next p hp =>
    split at hregister
    · cases hregister
    next hfresh =>
      cases hregister
      obtain ⟨hname, hkeeps⟩ := Profile.keeps_create hp
      constructor
      · have hnew : name ∉ ps.names := by
          intro hmem
          obtain ⟨q, hq, heq⟩ := List.mem_map.1 hmem
          exact hfresh (List.find?_isSome.2 ⟨q, hq, beq_iff_eq.2 heq⟩)
        rw [names, List.map_append, List.map_singleton, hname]
        exact h.distinct.append (List.nodup_singleton _) (by simpa using hnew)
      · intro q hq
        rcases List.mem_append.1 hq with hq | hq
        · exact h.keeps q hq
        · obtain rfl := List.mem_singleton.1 hq
          exact hkeeps

theorem registerAll_files (h : ps.Files 0) (size : UInt32) (hasValue : Bool)
    (names : List String) : (ps.registerAll size hasValue names).1.Files 0 := by
  induction names generalizing ps with
  | nil => exact h
  | cons name names ih =>
    unfold registerAll
    split
    · exact h
    next ps' hregister => exact ih (register_files h hregister)

/-- A directory starts out with distinct profiles that keep nothing. -/
theorem ofDefinitions_files {withValue withoutValue : String} {size : UInt32}
    (h : ofDefinitions withValue withoutValue size = .ok ps) : ps.Files 0 := by
  have hempty : Directory.Files {} 0 := ⟨List.nodup_nil, by simp⟩
  unfold ofDefinitions addDefinitions at h
  have hfirst := registerAll_files hempty size true (definedNames withValue)
  generalize registerAll {} size true (definedNames withValue) = registered at h hfirst
  obtain ⟨ps₁, _ | _⟩ := registered
  · cases h
  · dsimp only at h
    have hsecond := registerAll_files hfirst size false (definedNames withoutValue)
    generalize registerAll ps₁ size false (definedNames withoutValue) = registered at h hsecond
    obtain ⟨ps₂, _ | _⟩ := registered
    · cases h
    · cases h
      exact hsecond

end Directory

end SipDialogs
