-- SUMMARY: The memberships of a registry as one multiset, and how edits change both of its halves.
import SipDialogs.Proofs.Edits
import SipDialogs.Proofs.Profiles
import Mathlib.Algebra.Order.Group.Multiset

/-! # Memberships

Links of dialogs and members of profiles are two halves of one thing: a multiset of memberships. It
is read off the links here. Every reachable registry has a member for each link and for nothing
else, so all views of the profiles show the same multiset, and every operation changes it as its
name says. -/

namespace SipDialogs

/-- A tag of a dialog, with the value that counts. -/
structure Membership where
  dialog : Key
  profile : String
  value : Option String
  deriving DecidableEq, Repr

def Link.membership (key : Key) (l : Link) : Membership := ⟨key, l.profile, l.value⟩

/-! ## The links of linked dialogs -/

theorem Dialog.mem_held {d : Dialog} {key : Key} {l : Link} :
    (key, l) ∈ d.held ↔ d.key = key ∧ l ∈ d.links := by
  unfold held
  rw [List.mem_map]
  constructor
  · rintro ⟨l, hl, heq⟩
    cases heq
    exact ⟨rfl, hl⟩
  · rintro ⟨rfl, hl⟩
    exact ⟨l, hl, rfl⟩

namespace Table

variable {t t' : Table}

/-- The links of all linked dialogs. -/
def held (t : Table) : Multiset (Key × Link) := t.dialogs.flatMap Dialog.held

/-- The links of one dialog; none if it is not linked. -/
def heldAt (t : Table) (key : Key) : Multiset (Key × Link) :=
  (((t.find? key).map Dialog.held).getD [] : List (Key × Link))

theorem heldAt_of_find? {key : Key} {d : Dialog} (h : t.find? key = some d) :
    t.heldAt key = d.held := by
  simp [heldAt, h]

theorem heldAt_of_unlinked {key : Key} (h : t.find? key = none) : t.heldAt key = 0 := by
  simp [heldAt, h]

theorem Wf.mem_held (h : t.Wf) {key : Key} {l : Link} :
    (key, l) ∈ t.held ↔ ∃ d, t.find? key = some d ∧ l ∈ d.links := by
  unfold held
  rw [Multiset.mem_coe, List.mem_flatMap]
  constructor
  · rintro ⟨d, hd, hmem⟩
    obtain ⟨rfl, hl⟩ := Dialog.mem_held.1 hmem
    exact ⟨d, h.mem_dialogs.1 hd, hl⟩
  · rintro ⟨d, hd, hl⟩
    obtain rfl : d.key = key := h.key_of_find? hd
    exact ⟨d, h.mem_dialogs.2 hd, Dialog.mem_held.2 ⟨rfl, hl⟩⟩

theorem Wf.count_heldAt_of_ne (h : t.Wf) {key k : Key} (hne : k ≠ key) (l : Link) :
    (t.heldAt key).count (k, l) = 0 := by
  apply Multiset.count_eq_zero.2
  intro hmem
  cases hfind : t.find? key with
  | none => simp [heldAt_of_unlinked hfind] at hmem
  | some d =>
    rw [heldAt_of_find? hfind, Multiset.mem_coe, Dialog.mem_held, h.key_of_find? hfind] at hmem
    exact hne hmem.1.symm

/-- A link under a key is counted at that key. -/
theorem Wf.count_held (h : t.Wf) (key : Key) (l : Link) :
    t.held.count (key, l) = (t.heldAt key).count (key, l) := by
  cases hfind : t.find? key with
  | none =>
    rw [heldAt_of_unlinked hfind, Multiset.count_zero]
    apply Multiset.count_eq_zero.2
    intro hmem
    obtain ⟨d, hd, -⟩ := h.mem_held.1 hmem
    cases hfind.symm.trans hd
  | some d =>
    obtain rfl : d.key = key := h.key_of_find? hfind
    have hperm : t.dialogs.Perm (d :: t.dialogs.filter (·.key ≠ d.key)) := by
      apply h.dialogs_perm_of_find?_eq h
      intro k
      split
      next heq => rw [heq, hfind]
      · rfl
    let others := (t.dialogs.filter (·.key ≠ d.key)).flatMap Dialog.held
    have hsplit : t.held = (d.held : Multiset (Key × Link)) + (others : Multiset (Key × Link)) :=
      Multiset.coe_eq_coe.2 (hperm.flatMap_right Dialog.held)
    have hothers : (others : Multiset (Key × Link)).count (d.key, l) = 0 := by
      apply Multiset.count_eq_zero.2
      intro hmem
      obtain ⟨e, he, hmem⟩ := List.mem_flatMap.1 (Multiset.mem_coe.1 hmem)
      have hne : e.key ≠ d.key := by simpa using (List.mem_filter.1 he).2
      exact hne (Dialog.mem_held.1 hmem).1
    rw [heldAt_of_find? hfind, hsplit, Multiset.count_add, hothers, Nat.add_zero]

theorem held_create {size timeout : UInt32} (h : create size timeout = .ok t) : t.held = 0 := by
  apply Multiset.eq_zero_of_forall_notMem
  rintro ⟨key, l⟩ hmem
  obtain ⟨d, hd, -⟩ := (wf_create h).mem_held.1 hmem
  cases (find?_create h key).symm.trans hd

/-- Tables that differ under one key differ by what is held there. -/
theorem Wf.held_exchange (h : t.Wf) (h' : t'.Wf) (key : Key)
    (hfind : ∀ k, k ≠ key → t'.find? k = t.find? k) :
    t'.held + t.heldAt key = t.held + t'.heldAt key := by
  apply Multiset.ext.2
  rintro ⟨k, l⟩
  rw [Multiset.count_add, Multiset.count_add, h.count_held, h'.count_held]
  by_cases hkey : k = key
  · simp [hkey, Nat.add_comm]
  · have hsame : t'.heldAt k = t.heldAt k := by rw [heldAt, heldAt, hfind k hkey]
    simp [hsame, h.count_heldAt_of_ne hkey, h'.count_heldAt_of_ne hkey]

/-- A dialog that takes the place of itself brings its links. -/
theorem Wf.held_put (h : t.Wf) {d e : Dialog} (hfind : t.find? d.key = some d)
    (hkey : e.key = d.key) : (t.put e).held + d.held = t.held + e.held := by
  have hput : ∀ k, (t.put e).find? k = if k = d.key then some e else t.find? k := by
    intro k
    simp [find?_put_of_linked (hkey ▸ hfind), hkey]
  have hexchange := h.held_exchange (h.put e) d.key fun k hne => by
    simp [hput, if_neg hne]
  rwa [heldAt_of_find? hfind, heldAt_of_find? ((hput d.key).trans (if_pos rfl))] at hexchange

theorem Wf.held_revise (h : t.Wf) {d e : Dialog} (hfind : t.find? d.key = some d)
    (he : d.Revises e) : (t.put e).held = t.held := by
  have hsame : e.held = d.held := by rw [Dialog.held, Dialog.held, he.links, he.key]
  have hput := h.held_put hfind he.key
  rw [hsame] at hput
  exact add_right_cancel hput

theorem Wf.held_link (h : t.Wf) {d : Dialog} (hlinks : t.Links d t') (hd : d.links = []) :
    t'.held = t.held := by
  have hexchange := h.held_exchange (hlinks.wf h) d.key fun k hne => by
    simp [hlinks.find?, if_neg hne]
  have hfound : t'.find? d.key = some d := by rw [hlinks.find?, if_pos rfl]
  have hnone : d.held = [] := by rw [Dialog.held, hd, List.map_nil]
  rwa [heldAt_of_unlinked hlinks.fresh, heldAt_of_find? hfound, hnone, Multiset.coe_nil,
    Multiset.add_zero, Multiset.add_zero] at hexchange

theorem Wf.held_erase (h : t.Wf) {d : Dialog} (hfind : t.find? d.key = some d) :
    (t.erase d.key).held + d.held = t.held := by
  have herase : ∀ k, (t.erase d.key).find? k = if k = d.key then none else t.find? k :=
    fun k => find?_erase t d.key k
  have hexchange := h.held_exchange (h.erase d.key) d.key fun k hne => by
    simp [herase, if_neg hne]
  rwa [heldAt_of_find? hfind, heldAt_of_unlinked ((herase d.key).trans (if_pos rfl)),
    Multiset.add_zero] at hexchange

theorem Wf.held_attach (h : t.Wf) {d : Dialog} (hfind : t.find? d.key = some d) (l : Link) :
    (t.put { d with links := d.links ++ [l] }).held = (d.key, l) ::ₘ t.held := by
  have hput := h.held_put (e := { d with links := d.links ++ [l] }) hfind rfl
  have hnew : Dialog.held { d with links := d.links ++ [l] } = d.held ++ [(d.key, l)] := by
    simp [Dialog.held]
  have hsplit : t.held + (d.held ++ [(d.key, l)] : List (Key × Link))
      = ((d.key, l) ::ₘ t.held) + (d.held : Multiset (Key × Link)) := by
    rw [← Multiset.coe_add, ← Multiset.add_assoc, Multiset.coe_singleton, Multiset.cons_add,
      ← Multiset.singleton_add, Multiset.add_comm]
  rw [hnew, hsplit] at hput
  exact add_right_cancel hput

theorem Wf.held_detach (h : t.Wf) {d : Dialog} {chosen : Link → Bool} {l : Link}
    (hfind : t.find? d.key = some d) (hl : d.links.find? chosen = some l) :
    t.held = (d.key, l) ::ₘ (t.put { d with links := d.links.eraseP chosen }).held := by
  have hput := h.held_put (e := { d with links := d.links.eraseP chosen }) hfind rfl
  have hperm : d.links.Perm (l :: d.links.eraseP chosen) := by
    obtain ⟨hchosen, before, after, hsplit, hbefore⟩ := List.find?_eq_some_iff_append.1 hl
    have herase : d.links.eraseP chosen = before ++ after := by
      rw [hsplit, List.eraseP_append_right _ (by simpa using hbefore),
        List.eraseP_cons_of_pos hchosen]
    rw [herase, hsplit]
    exact List.perm_middle
  have hheld : (d.held : Multiset (Key × Link))
      = (d.key, l) ::ₘ (Dialog.held { d with links := d.links.eraseP chosen }) :=
    Multiset.coe_eq_coe.2 (hperm.map fun l => (d.key, l))
  rw [hheld, Multiset.add_cons, ← Multiset.cons_add] at hput
  exact (add_right_cancel hput).symm

end Table

/-! ## Both halves -/

/-- The links of linked dialogs and of those that are not torn down yet. -/
def Books.held (b : Books) : Multiset (Key × Link) := b.table.held + b.limbo

/-- Every edit that changes the links changes the members with them. -/
theorem Edit.files {tagging : Bool} {b b' : Books} (h : Edit tagging b b') (hwf : b.table.Wf)
    (hfiles : b.profiles.Files b.held) : b'.profiles.Files b'.held := by
  cases h with
  | count t f ps limbo => exact hfiles
  | revise hfind he ps limbo =>
    rw [Books.held, hwf.held_revise hfind he]
    exact hfiles
  | unlink hfind ps limbo =>
    rw [Books.held, ← Multiset.coe_add, ← Multiset.add_assoc, hwf.held_erase hfind]
    exact hfiles
  | purge t ps key links limbo =>
    rw [Books.held, ← Multiset.coe_add, add_left_comm] at hfiles
    exact hfiles.removeMembers links
  | link hlinks hd ps limbo =>
    rw [Books.held, hwf.held_link hlinks hd]
    exact hfiles
  | takeBack hget hlink t limbo => exact hfiles.takeBack hget hlink
  | attach hfind hget hlink limbo =>
    rw [Books.held, hwf.held_attach hfind, Multiset.cons_add]
    exact hfiles.attach hget hlink
  | @detach t d chosen l hfind hl ps limbo =>
    rw [Books.held, hwf.held_detach hfind hl, Multiset.cons_add] at hfiles
    exact hfiles.removeMembers [l]

theorem Edits.files {tagging : Bool} {b b' : Books} (h : Edits tagging b b') (hwf : b.table.Wf)
    (hfiles : b.profiles.Files b.held) : b'.profiles.Files b'.held := by
  induction h with
  | refl => exact hfiles
  | tail hedits hedit ih => exact hedit.files (Edits.wf hedits hwf) ih

/-- Profiles are defined once: no edit adds one, drops one, or gives values to one. -/
theorem Edit.hasValue? {tagging : Bool} {b b' : Books} (h : Edit tagging b b') :
    b'.profiles.hasValue? = b.profiles.hasValue? := by
  cases h with
  | count | revise | unlink | link => rfl
  | purge t ps key links limbo => exact funext (ps.hasValue?_removeMembers links)
  | detach hfind hl ps limbo => exact funext (ps.hasValue?_removeMembers _)
  | takeBack hget hlink t limbo =>
    obtain ⟨hsearch, -, rfl⟩ := Directory.get_eq_ok hget
    obtain ⟨-, -, rfl⟩ := Profile.newLink_eq_ok hlink
    exact funext (Directory.hasValue?_put hsearch rfl rfl)
  | attach hfind hget hlink limbo =>
    obtain ⟨hsearch, -, rfl⟩ := Directory.get_eq_ok hget
    obtain ⟨-, -, rfl⟩ := Profile.newLink_eq_ok hlink
    exact funext (Directory.hasValue?_put hsearch rfl rfl)

theorem Edits.hasValue? {tagging : Bool} {b b' : Books} (h : Edits tagging b b') :
    b'.profiles.hasValue? = b.profiles.hasValue? := by
  induction h with
  | refl => rfl
  | tail _ hedit ih => exact hedit.hasValue?.trans ih

/-- No run of operations makes profiles or drops them. -/
theorem Registry.Acts.hasValue? {r r' : Registry ε}
    (h : Registry.Acts (fun env _ => ∃ depth, Environment.Lawful depth env) r r')
    (hwf : r.table.Wf) : r'.profiles.hasValue? = r.profiles.hasValue? := by
  have hedits : Edits true (r.books []) (r'.books []) :=
    h.edits (fun _ _ ⟨_, henv⟩ => ⟨henv.orderly, .inl rfl⟩) hwf []
  exact hedits.hasValue?

/-- The profiles of a reachable registry have a member for each link of a linked dialog. -/
theorem Registry.Reachable.files {r : Registry ε} (h : r.Reachable) :
    r.profiles.Files r.table.held := by
  obtain ⟨r₀, ⟨config, clock, hasTimer, e, hcreate⟩, hwf, hedits⟩ := h.edits
  obtain ⟨htable, hprofiles, -⟩ := Registry.create_eq_ok hcreate
  have hstart : r₀.profiles.Files (Books.held (r₀.books [])) := by
    rw [Books.held, Registry.books, Table.held_create htable]
    exact Directory.ofDefinitions_files hprofiles
  have hfiles := hedits.files hwf hstart
  rwa [Books.held, Registry.books, Multiset.coe_nil, Multiset.add_zero] at hfiles

/-! ## What upkeep leaves -/

namespace Table

variable {t t' : Table}

/-- Every dialog of the second table is in the first, with the same links. -/
def Sheds (t t' : Table) : Prop :=
  ∀ key e, t'.find? key = some e → ∃ d, t.find? key = some d ∧ e.links = d.links

theorem Sheds.refl (t : Table) : t.Sheds t := fun _ e he => ⟨e, he, rfl⟩

theorem Sheds.trans {t'' : Table} (h : t.Sheds t') (h' : t'.Sheds t'') : t.Sheds t'' := by
  intro key f hf
  obtain ⟨e, he, hlinks⟩ := h' key f hf
  obtain ⟨d, hd, hlinks'⟩ := h key e he
  exact ⟨d, hd, hlinks.trans hlinks'⟩

/-- Where dialogs are only shed, what is held is held by those that are left. -/
theorem Wf.held_shed (h : t.Wf) (h' : t'.Wf) (hsheds : t.Sheds t') :
    t'.held = t.held.filter fun x => t'.isLinked x.1 = true := by
  apply Multiset.ext.2
  rintro ⟨key, l⟩
  rw [Multiset.count_filter, h.count_held, h'.count_held]
  cases hfind : t'.find? key with
  | none =>
    rw [heldAt_of_unlinked hfind, if_neg (by simp [isLinked, hfind]), Multiset.count_zero]
  | some e =>
    obtain ⟨d, hd, hlinks⟩ := hsheds key e hfind
    have hsame : e.held = d.held := by
      simp [Dialog.held, Dialog.held, hlinks, h'.key_of_find? hfind, h.key_of_find? hd]
    rw [heldAt_of_find? hfind, heldAt_of_find? hd, if_pos (by simp [isLinked, hfind]), hsame]

end Table

theorem Edit.sheds {b b' : Books} (h : Edit false b b') : b.table.Sheds b'.table := by
  cases h with
  | count t f ps limbo => exact .refl t
  | @revise _ t d e hfind he ps limbo =>
    intro key f hf
    rw [Table.find?_put_of_linked (he.key ▸ hfind), he.key] at hf
    split at hf
    next heq =>
      cases hf
      exact ⟨d, heq ▸ hfind, he.links⟩
    · exact ⟨f, hf, rfl⟩
  | unlink hfind ps limbo =>
    intro key f hf
    rw [Table.find?_erase] at hf
    split at hf
    · cases hf
    · exact ⟨f, hf, rfl⟩
  | purge t ps key links limbo => exact .refl t

/-- Upkeep unlinks dialogs, and neither links any nor tags them. -/
theorem Edits.sheds {b b' : Books} (h : Edits false b b') : b.table.Sheds b'.table := by
  induction h with
  | refl => exact .refl _
  | tail _ hedit ih => exact ih.trans hedit.sheds

/-! ## The multiset -/

namespace Table

variable {t t' : Table}

/-- The memberships of all linked dialogs. -/
def memberships (t : Table) : Multiset Membership := t.held.map fun x => x.2.membership x.1

theorem mem_memberships {m : Membership} :
    m ∈ t.memberships ↔ ∃ l, (m.dialog, l) ∈ t.held ∧ l.membership m.dialog = m := by
  unfold memberships
  rw [Multiset.mem_map]
  constructor
  · rintro ⟨⟨key, l⟩, hheld, rfl⟩
    exact ⟨l, hheld, rfl⟩
  · rintro ⟨l, hheld, hl⟩
    exact ⟨(m.dialog, l), hheld, hl⟩

/-- A link is found with the dialog that holds it. -/
theorem Wf.hasLink_iff (h : t.Wf) {key : Key} {chosen : Link → Bool} :
    t.hasLink key chosen = true ↔ ∃ l, (key, l) ∈ t.held ∧ chosen l = true := by
  unfold hasLink
  rw [Option.any_eq_true]
  constructor
  · rintro ⟨d, hd, hany⟩
    obtain ⟨l, hl, hchosen⟩ := List.any_eq_true.1 hany
    exact ⟨l, h.mem_held.2 ⟨d, hd, hl⟩, hchosen⟩
  · rintro ⟨l, hheld, hchosen⟩
    obtain ⟨d, hd, hl⟩ := h.mem_held.1 hheld
    exact ⟨d, hd, List.any_eq_true.2 ⟨l, hl, hchosen⟩⟩

/-- Where no link is taken, there is none to take. -/
theorem Wf.takeLink_eq_none (h : t.Wf) {key : Key} {chosen : Link → Bool}
    (htake : t.takeLink key chosen = none) {l : Link} (hheld : (key, l) ∈ t.held) :
    chosen l = false := by
  obtain ⟨d, hd, hl⟩ := h.mem_held.1 hheld
  unfold takeLink at htake
  rw [hd] at htake
  cases hfirst : d.links.find? chosen with
  | none => simpa using List.find?_eq_none.1 hfirst l hl
  | some l' => simp [hfirst] at htake

theorem Wf.memberships_shed (h : t.Wf) (h' : t'.Wf) (hsheds : t.Sheds t') :
    t'.memberships = t.memberships.filter fun m => t'.isLinked m.dialog = true := by
  rw [memberships, h.held_shed h' hsheds, memberships, Multiset.filter_map]
  rfl

/-- With its last reference, a dialog takes its memberships along, and no others. -/
theorem Wf.memberships_release (h : t.Wf) {key : Key} {count : Nat} {e : Dialog}
    (hlast : (t.release key count).1 = some e) :
    (t.release key count).2.memberships = t.memberships.filter fun m => m.dialog ≠ key := by
  obtain ⟨-, hfind, hwf⟩ := of_release hlast
  have hsheds : t.Sheds (t.release key count).2 := by
    intro k f hf
    rw [hfind] at hf
    split at hf
    · cases hf
    · exact ⟨f, hf, rfl⟩
  rw [h.memberships_shed (hwf h) hsheds]
  apply Multiset.filter_congr
  intro m hm
  obtain ⟨l, hheld, -⟩ := mem_memberships.1 hm
  obtain ⟨d, hd, -⟩ := h.mem_held.1 hheld
  rw [isLinked, hfind]
  split
  next heq => simp [heq]
  next hne => simp [hne, hd]

/-- A profile owns a link if it is the membership that is asked for. -/
theorem owns_iff {ps : Directory} (h : ps.Files t.held) {p : Profile} (hp : p ∈ ps.profiles)
    {key : Key} {l : Link} (hheld : (key, l) ∈ t.held) (value : Option String) :
    p.owns value l = true ↔ l.membership key = ⟨key, p.name, p.valueOf value⟩ := by
  have hmade : l.profile = p.name → l.value = p.valueOf l.value := fun hname =>
    ((h.keeps p hp).made _ (Multiset.mem_filter.2 ⟨hheld, hname⟩)).value
  rw [Profile.owns_iff hmade, Link.membership, Membership.mk.injEq]
  exact (and_iff_right rfl).symm

/-- Counting the members of a profile is counting its memberships. -/
theorem countP_memberships {ps : Directory} (h : ps.Files t.held) {p : Profile}
    (hp : p ∈ ps.profiles) (Q : Key → Option String → Bool) :
    t.memberships.countP (fun m => m.profile = p.name ∧ Q m.dialog m.value = true)
      = p.members.countP fun m => Q m.dialog m.value := by
  have hkept := h.keeps p hp
  calc t.memberships.countP (fun m => m.profile = p.name ∧ Q m.dialog m.value = true)
    _ = (t.held.filter fun x => x.2.profile = p.name ∧ Q x.1 x.2.value = true).card :=
        Multiset.countP_map ..
    _ = ((Directory.linksOf t.held p.name).filter fun x => Q x.1 x.2.value = true).card := by
        rw [Directory.linksOf, Multiset.filter_filter]
        simp only [and_comm]
    _ = (p.members : Multiset Member).countP fun m => Q m.dialog m.value = true := by
        rw [hkept.members, Multiset.countP_map]
        rfl
    _ = p.members.countP fun m => Q m.dialog m.value := by
        rw [Multiset.coe_countP]
        simp only [Bool.decide_eq_true]

end Table

end SipDialogs
