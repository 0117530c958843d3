-- SUMMARY: Tagging, untagging and the views of profiles, told by the multiset of memberships alone.
import SipDialogs.Proofs.Memberships

/-! # Tagging

A registry is used as if it held a multiset of memberships and nothing else: a tag adds one,
untagging takes one away, dialogs that end take theirs with them, and whoever asks is told what is
in it. -/

namespace SipDialogs

/-- A dialog that takes the place of another changes nothing about who is linked. -/
theorem Table.isLinked_put {t : Table} {d e : Dialog} (h : t.find? d.key = some e) (key : Key) :
    (t.put d).isLinked key = t.isLinked key := by
  rw [isLinked, find?_put_of_linked h, isLinked]
  split
  next heq =>
    rw [heq, h]
    rfl
  · rfl

namespace Registry

variable {r : Registry ε}

def memberships (r : Registry ε) : Multiset Membership := r.table.memberships

/-! ## Making tags -/

/-- The membership that a tag of a dialog would be: none if the dialog is not linked, if there is
no such profile, or if the profile has values and the tag has none. -/
def tag? (r : Registry ε) (key : Key) (tag : Tag) : Option Membership :=
  match r.profiles.hasValue? tag.profile with
  | none => none
  | some hasValue =>
    if hasValue && tag.value.isNone || !r.table.isLinked key then none
    else some ⟨key, tag.profile, if hasValue then tag.value else none⟩

/-- A tag that may be made is one membership more; any other is refused and changes nothing. -/
def Tags (r : Registry ε) (key : Key) (tag : Tag) (outcome : Except Fault Unit × Registry ε) :
    Prop :=
  match r.tag? key tag with
  | some m => outcome.1 = .ok () ∧ outcome.2.memberships = m ::ₘ r.memberships
  | none => (∃ e, outcome.1 = .error e) ∧ outcome.2.memberships = r.memberships

theorem Tags.of_some {key : Key} {tag : Tag} {outcome : Except Fault Unit × Registry ε}
    {m : Membership} (hm : r.tag? key tag = some m) (hok : outcome.1 = .ok ())
    (hmade : outcome.2.memberships = m ::ₘ r.memberships) : r.Tags key tag outcome := by
  unfold Tags
  rw [hm]
  exact ⟨hok, hmade⟩

theorem Tags.of_none {key : Key} {tag : Tag} {outcome : Except Fault Unit × Registry ε}
    {e : Fault} (hnone : r.tag? key tag = none) (herror : outcome.1 = .error e)
    (hsame : outcome.2.memberships = r.memberships) : r.Tags key tag outcome := by
  unfold Tags
  rw [hnone]
  exact ⟨⟨e, herror⟩, hsame⟩

/-- A tag is refused, or the dialog has a link more, which is the membership. Neither makes a
difference to which profiles there are. -/
theorem attach_cases (hwf : r.table.Wf) (key : Key) (tag : Tag) :
    (∃ e ps, r.tag? key tag = none ∧ ps.hasValue? = r.profiles.hasValue? ∧
      r.attach key tag.profile tag.value = (.error e, { r with profiles := ps })) ∨
    ∃ d l ps, r.table.find? key = some d ∧ d.key = key ∧
      r.tag? key tag = some (l.membership key) ∧ ps.hasValue? = r.profiles.hasValue? ∧
      r.attach key tag.profile tag.value
        = (.ok (), { r with table := r.table.put { d with links := d.links ++ [l] }
                            profiles := ps }) := by
  unfold attach
  cases hget : r.profiles.get tag.profile with
  | error e =>
    have hnone : r.profiles.hasValue? tag.profile = none := by
      unfold Directory.get at hget
      split at hget
      · cases hget
      next hsearch => rw [Directory.hasValue?, hsearch, Option.map_none]
    exact .inl ⟨e, r.profiles, by rw [tag?, hnone], rfl, rfl⟩
  | ok p =>
    obtain ⟨hsearch, -, hname⟩ := Directory.get_eq_ok hget
    have hhas : r.profiles.hasValue? tag.profile = some p.hasValue := by
      simp [Directory.hasValue?, hsearch, Option.map_some]
    dsimp only
    cases hlink : p.newLink key tag.value with
    | error e =>
      refine .inl ⟨e, r.profiles, ?_, rfl, rfl⟩
      unfold Profile.newLink at hlink
      split at hlink
      next hmissing => simp [tag?, hhas, hmissing]
      · cases hlink
    | ok linked =>
      obtain ⟨l, numbered⟩ := linked
      obtain ⟨hgiven, hl, rfl⟩ := Profile.newLink_eq_ok hlink
      rw [← hname] at hsearch
      dsimp only
      unfold Table.pushLink
      cases hfind : r.table.find? key with
      | none =>
        refine .inl ⟨_, _, ?_, ?_, rfl⟩
        · simp [tag?, hhas, Table.isLinked, hfind]
        · exact funext (Directory.hasValue?_put hsearch rfl rfl)
      | some d =>
        refine .inr ⟨d, l, _, rfl, hwf.key_of_find? hfind, ?_, ?_, rfl⟩
        · have hok : (p.hasValue && tag.value.isNone) = false := by
            cases hvalue : p.hasValue with
            | false => rfl
            | true => simpa using hgiven hvalue
          simp [tag?, hhas, hok, Table.isLinked, hfind, hl, Link.membership, hname,
            Profile.valueOf]
        · exact funext (Directory.hasValue?_put hsearch rfl rfl)

theorem attach_tags (hwf : r.table.Wf) (key : Key) (tag : Tag) :
    r.Tags key tag (r.attach key tag.profile tag.value) := by
  rcases attach_cases hwf key tag with
    ⟨e, ps, hnone, -, heq⟩ | ⟨d, l, ps, hfind, rfl, hm, -, heq⟩
  · exact .of_none hnone (by rw [heq]) (by rw [heq]; rfl)
  · refine .of_some hm (by rw [heq]) ?_
    rw [heq, memberships, Table.memberships, hwf.held_attach hfind, Multiset.map_cons]
    rfl

theorem tag?_congr {r r' : Registry ε}
    (hprofiles : ∀ name, r'.profiles.hasValue? name = r.profiles.hasValue? name)
    (htable : ∀ key, r'.table.isLinked key = r.table.isLinked key) : r'.tag? = r.tag? := by
  funext key tag
  simp [tag?, tag?, hprofiles, htable]

/-- Which tags may be made does not change while tags are made. -/
theorem tag?_attach (hwf : r.table.Wf) (key : Key) (tag : Tag) :
    (r.attach key tag.profile tag.value).2.tag? = r.tag? := by
  rcases attach_cases hwf key tag with
    ⟨e, ps, -, hprofiles, heq⟩ | ⟨d, l, ps, hfind, rfl, -, hprofiles, heq⟩
  · rw [heq]
    exact tag?_congr (congrFun hprofiles) fun _ => rfl
  · rw [heq]
    exact tag?_congr (congrFun hprofiles) (Table.isLinked_put hfind)

/-- Of a list of tags, those that may be made are. -/
theorem attachTags_memberships (hwf : r.table.Wf) (key : Key) (tags : List Tag) :
    (RequestScope.attachTags key tags r).memberships
      = (tags.filterMap (r.tag? key) : List Membership) + r.memberships := by
  induction tags generalizing r with
  | nil => exact (Multiset.zero_add _).symm
  | cons tag tags ih =>
    have hwf' : (r.attach key tag.profile tag.value).2.table.Wf :=
      Edits.wf (attach_edits hwf key tag.profile tag.value []) hwf
    have hrest := ih hwf'
    rw [tag?_attach hwf key tag] at hrest
    refine hrest.trans ?_
    have htags := attach_tags hwf key tag
    unfold Tags at htags
    cases hm : r.tag? key tag with
    | none =>
      rw [hm] at htags
      simp [List.filterMap_cons_none hm, htags.2]
    | some m =>
      rw [hm] at htags
      rw [List.filterMap_cons_some hm, htags.2, ← Multiset.cons_coe, Multiset.cons_add,
        Multiset.add_cons]

/-! ## Looking for tags and taking them off -/

theorem isMember_eq (hwf : r.table.Wf) (hfiles : r.profiles.Files r.table.held) {name : String}
    {p : Profile} (hget : r.profiles.get name = .ok p) (key : Key) (value : Option String) :
    r.isMember key name value
      = .ok (decide ((⟨key, name, p.valueOf value⟩ : Membership) ∈ r.memberships)) := by
  obtain ⟨-, hp, rfl⟩ := Directory.get_eq_ok hget
  have hiff : r.table.hasLink key (p.owns value) = true ↔
      (⟨key, p.name, p.valueOf value⟩ : Membership) ∈ r.memberships := by
    rw [hwf.hasLink_iff, memberships, Table.mem_memberships]
    constructor
    · rintro ⟨l, hheld, howns⟩
      exact ⟨l, hheld, (Table.owns_iff hfiles hp hheld value).1 howns⟩
    · rintro ⟨l, hheld, hl⟩
      exact ⟨l, hheld, (Table.owns_iff hfiles hp hheld value).2 hl⟩
  rw [isMember, hget, Except.map]
  by_cases hmem : (⟨key, p.name, p.valueOf value⟩ : Membership) ∈ r.memberships
  · simp [decide_eq_true hmem, hiff.2 hmem]
  · simp [decide_eq_false hmem, Bool.eq_false_iff.2 (mt hiff.1 hmem)]

/-- Untagging takes one membership away if there is one, and says whether there was. -/
def Untags (r : Registry ε) (key : Key) (tag : Tag) (outcome : Except Fault Bool × Registry ε) :
    Prop :=
  match r.profiles.get tag.profile with
  | .ok p =>
    outcome.1 = .ok (decide (⟨key, tag.profile, p.valueOf tag.value⟩ ∈ r.memberships)) ∧
      outcome.2.memberships = r.memberships.erase ⟨key, tag.profile, p.valueOf tag.value⟩
  | .error e => outcome.1 = .error e ∧ outcome.2.memberships = r.memberships

theorem detach_untags (hwf : r.table.Wf) (hfiles : r.profiles.Files r.table.held) (key : Key)
    (tag : Tag) : r.Untags key tag (r.detach key tag.profile tag.value) := by
  obtain ⟨name, value⟩ := tag
  unfold Untags detach
  dsimp only
  cases hget : r.profiles.get name with
  | error e => exact ⟨rfl, rfl⟩
  | ok p =>
    obtain ⟨-, hp, rfl⟩ := Directory.get_eq_ok hget
    dsimp only
    cases htake : r.table.takeLink key (p.owns value) with
    | none =>
      have hmem : (⟨key, p.name, p.valueOf value⟩ : Membership) ∉ r.memberships := by
        intro hmem
        obtain ⟨l, hheld, hl⟩ := Table.mem_memberships.1 hmem
        have howns := (Table.owns_iff hfiles hp hheld value).2 hl
        exact Bool.false_ne_true ((hwf.takeLink_eq_none htake hheld).symm.trans howns)
      exact ⟨by rw [decide_eq_false hmem], (Multiset.erase_of_notMem hmem).symm⟩
    | some taken =>
      obtain ⟨l, t⟩ := taken
      obtain ⟨d, hfind, hl, rfl⟩ := Table.takeLink_eq_some htake
      obtain rfl : d.key = key := hwf.key_of_find? hfind
      have hheld : (d.key, l) ∈ r.table.held :=
        hwf.mem_held.2 ⟨d, hfind, List.mem_of_find?_eq_some hl⟩
      have hmembership : l.membership d.key = ⟨d.key, p.name, p.valueOf value⟩ :=
        (Table.owns_iff hfiles hp hheld value).1 (List.find?_some hl)
      have hmem : (⟨d.key, p.name, p.valueOf value⟩ : Membership) ∈ r.memberships :=
        Table.mem_memberships.2 ⟨l, hheld, hmembership⟩
      have hsplit : r.memberships = ⟨d.key, p.name, p.valueOf value⟩ ::ₘ
          (r.table.put { d with links := d.links.eraseP (p.owns value) }).memberships := by
        rw [memberships, Table.memberships, hwf.held_detach hfind hl, Multiset.map_cons,
          hmembership]
        rfl
      refine ⟨by rw [decide_eq_true hmem], ?_⟩
      rw [hsplit, Multiset.erase_cons_head]
      rfl

/-! ## Views -/

/-- What whoever looks at the profiles is told if `M` is all there is. -/
structure Shows (r : Registry ε) (M : Multiset Membership) : Prop where
  isMember : ∀ {name p}, r.profiles.get name = .ok p → ∀ key value,
    r.isMember key name value = .ok (decide (⟨key, name, p.valueOf value⟩ ∈ M))
  count : ∀ {name p}, r.profiles.get name = .ok p →
    p.count none = M.countP fun m => m.profile = name
  countValue : ∀ {name p}, r.profiles.get name = .ok p → p.hasValue = true → ∀ v,
    p.count (some v) = (M.countP fun m => m.profile = name ∧ m.value = some v) ∧
      p.count (some v) = (p.dialogs (some v)).length
  dialogs : ∀ {name p}, r.profiles.get name = .ok p → ∀ key,
    (p.dialogs none).count key = M.countP fun m => m.profile = name ∧ m.dialog = key
  dialogsValue : ∀ {name p}, r.profiles.get name = .ok p → ∀ key value,
    (p.hasValue = true → value.isSome = true) →
      (p.dialogs value).count key = M.count ⟨key, name, p.valueOf value⟩
  withoutValue : ∀ {name p}, r.profiles.get name = .ok p → p.hasValue = false → ∀ key value,
    p.count value = p.count none ∧ p.dialogs value = p.dialogs none ∧
      r.isMember key name value = r.isMember key name none
  bucketCounts : ∀ {name p}, r.profiles.get name = .ok p →
    p.bucketCounts.foldr (· + ·) 0 = p.count none

/-- Every view shows the memberships that are read off the links. -/
theorem shows_memberships (hwf : r.table.Wf) (hfiles : r.profiles.Files r.table.held) :
    r.Shows r.memberships where
  isMember hget key value := isMember_eq hwf hfiles hget key value
  count := by
    intro name p hget
    obtain ⟨-, hp, rfl⟩ := Directory.get_eq_ok hget
    have hall : p.selects none = fun _ => true :=
      funext (Profile.selects_of_none p.valueOf_none)
    rw [(hfiles.keeps p hp).count_eq, hall,
      ← Table.countP_memberships hfiles hp fun _ _ => true]
    exact Multiset.countP_congr rfl fun m _ => by simp
  countValue := by
    intro name p hget hvalue v
    obtain ⟨-, hp, rfl⟩ := Directory.get_eq_ok hget
    have hselects : p.selects (some v) = fun m => m.value == some v :=
      funext (Profile.selects_of_some (Profile.valueOf_of_hasValue hvalue _))
    rw [p.length_dialogs, (hfiles.keeps p hp).count_eq, hselects,
      ← Table.countP_memberships hfiles hp fun _ value => value == some v]
    exact ⟨Multiset.countP_congr rfl fun m _ => by simp, rfl⟩
  dialogs := by
    intro name p hget key
    obtain ⟨-, hp, rfl⟩ := Directory.get_eq_ok hget
    have hselects : (fun m : Member => m.dialog == key && p.selects none m)
        = fun m => m.dialog == key := by
      funext m
      simp [Profile.selects_of_none p.valueOf_none, Bool.and_true]
    rw [p.count_dialogs, hselects, ← Table.countP_memberships hfiles hp fun k _ => k == key]
    exact Multiset.countP_congr rfl fun m _ => by simp
  dialogsValue := by
    intro name p hget key value hgiven
    obtain ⟨-, hp, rfl⟩ := Directory.get_eq_ok hget
    have hselects : p.members.countP (fun m => m.dialog == key && p.selects value m)
        = p.members.countP fun m => m.dialog == key && m.value == p.valueOf value := by
      apply List.countP_congr
      intro m hm
      simp [(hfiles.keeps p hp).selects_eq hgiven hm]
    rw [p.count_dialogs, hselects, ← Table.countP_memberships hfiles hp
      fun k value' => k == key && value' == p.valueOf value]
    refine Multiset.countP_congr rfl fun m _ => propext ⟨?_, ?_⟩
    · intro hcounted
      obtain ⟨hname, hdialog, hvalue⟩ : m.profile = p.name ∧ m.dialog = key ∧
        m.value = p.valueOf value := by simpa using hcounted
      simp [← hname, ← hdialog, ← hvalue]
    · rintro rfl
      simp
  withoutValue := by
    intro name p hget hvalue key value
    have hnone : p.valueOf value = p.valueOf none := by
      rw [Profile.valueOf_of_not_hasValue hvalue, Profile.valueOf_of_not_hasValue hvalue]
    refine ⟨?_, ?_, ?_⟩
    · rw [Profile.count, hnone]
      rfl
    · rw [Profile.dialogs, hnone]
      rfl
    · rw [isMember_eq hwf hfiles hget, isMember_eq hwf hfiles hget, hnone]
  bucketCounts := by
    intro name p hget
    obtain ⟨-, hp, rfl⟩ := Directory.get_eq_ok hget
    rw [p.foldr_bucketCounts, (hfiles.keeps p hp).count_eq, eq_comm, List.countP_eq_length]
    exact fun m _ => Profile.selects_of_none p.valueOf_none m

/-! ## Other operations

Whatever else is done to a registry, memberships only go with the dialogs that they are of. -/

/-- The memberships of `M` whose dialogs are linked. -/
def linked (r : Registry ε) (M : Multiset Membership) : Multiset Membership :=
  M.filter fun m => r.table.isLinked m.dialog = true

theorem memberships_of_upkeep {r r' : Registry ε} (hwf : r.table.Wf)
    (hedits : Edits false (r.books []) (r'.books [])) :
    r'.memberships = r'.linked r.memberships :=
  hwf.memberships_shed (hedits.wf hwf) hedits.sheds

/-- A dialog is linked without memberships. -/
theorem memberships_of_link {r' : Registry ε} (hwf : r.table.Wf) {d : Dialog} {t : Table}
    (hlinks : r.table.Links d t) (hd : d.links = [])
    (hedits : Edits false ({ r with table := t }.books []) (r'.books [])) :
    r'.memberships = r'.linked r.memberships := by
  have hsame : { r with table := t }.memberships = r.memberships := by
    rw [memberships, Table.memberships, hwf.held_link hlinks hd]
    rfl
  rw [← hsame]
  exact memberships_of_upkeep (hlinks.wf hwf) hedits

theorem perform_memberships {env : Environment ε} {depth : Nat} (henv : env.Discreet depth)
    (hwf : r.table.Wf) (op : Operation)
    (hattach : ∀ key profile value, op ≠ .attach key profile value)
    (hdetach : ∀ key profile value, op ≠ .detach key profile value) :
    (r.perform env op).memberships = (r.perform env op).linked r.memberships := by
  have hupkeep : op.isTagging = false →
      (r.perform env op).memberships = (r.perform env op).linked r.memberships := fun hop =>
    memberships_of_upkeep hwf (perform_edits henv.orderly hwf op (.inr hop) [])
  cases op with
  | insert identity holders =>
    rw [perform]
    rcases insert_edits henv.orderly hwf identity holders [] with
      hsame | ⟨d, t, hlinks, hd, hedits⟩
    · rw [hsame]
      exact memberships_of_upkeep hwf .refl
    · exact memberships_of_link hwf hlinks hd hedits
  | restore s =>
    rw [perform]
    rcases restore_edits r s with hsame | ⟨d, t, hlinks, hd, hrestored⟩
    · rw [hsame]
      exact memberships_of_upkeep hwf .refl
    · rw [hrestored]
      exact memberships_of_link hwf hlinks hd .refl
  | attach key profile value => exact (hattach key profile value rfl).elim
  | detach key profile value => exact (hdetach key profile value rfl).elim
  | _ => exact hupkeep rfl

/-! ## Request scopes -/

theorem setProfile_of_current {s : RequestScope} {key : Key} (h : s.current = some key)
    (profile : String) (value : Option String) :
    s.setProfile profile value r
      = ((r.attach key profile value).1, s, (r.attach key profile value).2) := by
  unfold RequestScope.setProfile attach
  cases r.profiles.get profile with
  | error e => rfl
  | ok p =>
    unfold Profile.newLink
    dsimp only
    split
    · rfl
    · simp [h]

theorem unsetProfile_of_current {s : RequestScope} {key : Key} (h : s.current = some key)
    (profile : String) (value : Option String) :
    s.unsetProfile profile value r = r.detach key profile value := by
  unfold RequestScope.unsetProfile
  rw [h]
  cases hget : r.profiles.get profile with
  | error e => rw [detach, hget]
  | ok p => rfl

theorem setProfile_of_no_current {s : RequestScope} (h : s.current = none) (profile : String)
    (value : Option String) : (s.setProfile profile value r).2.2 = r := by
  unfold RequestScope.setProfile
  rw [h]
  split
  · rfl
  · split <;> rfl

theorem unsetProfile_of_no_current {s : RequestScope} (h : s.current = none) (profile : String)
    (value : Option String) : (s.unsetProfile profile value r).2 = r := by
  unfold RequestScope.unsetProfile
  rw [h]
  cases r.profiles.get profile <;> rfl

theorem attachTags_edits (hwf : r.table.Wf) (key : Key) (tags : List Tag) :
    Edits true (r.books []) ((RequestScope.attachTags key tags r).books []) := by
  induction tags generalizing r with
  | nil => exact .refl
  | cons tag tags ih =>
    have hattach := attach_edits hwf key tag.profile tag.value []
    exact hattach.trans (ih (hattach.wf hwf))

theorem releaseCurrent_edits {env : Environment ε} {tagging : Bool} (henv : env.Orderly tagging)
    (hwf : r.table.Wf) (s : RequestScope) :
    Edits tagging (r.books []) ((s.releaseCurrent env r).books []) := by
  unfold RequestScope.releaseCurrent
  split
  next key _ => exact release_edits henv hwf key 1 []
  next => exact .refl

/-- A dialog that becomes the current one of its request gets the pending tags that may be made. -/
theorem setDialog_memberships {env : Environment ε} {depth : Nat} (henv : env.Discreet depth)
    (hwf : r.table.Wf) (s : RequestScope) (request : Nat) (key : Key) :
    (s.setDialog env request key r).2.memberships
      = (s.setDialog env request key r).2.linked
          ((if s.request = some request then s.pending.filterMap (r.tag? key) else [] :
            List Membership) + r.memberships) := by
  unfold RequestScope.setDialog
  dsimp only
  split
  · have hwf' : (RequestScope.attachTags key s.pending r).table.Wf :=
      Edits.wf (attachTags_edits hwf key s.pending) hwf
    rw [← attachTags_memberships hwf]
    exact memberships_of_upkeep hwf' (releaseCurrent_edits henv.orderly hwf' s)
  · rw [Multiset.coe_nil, Multiset.zero_add]
    exact memberships_of_upkeep hwf (releaseCurrent_edits henv.orderly hwf s)

/-! ## The whole registry -/

/-- A registry does what is asked of it as if it held one multiset of memberships: tags add one,
untagging takes one away, dialogs that are unlinked take theirs along, everything else leaves what
is there, and all views show it, in this registry and in all that it becomes. Surroundings may call
back whatever they like, except where it is said what an operation leaves in the end: there they
neither link dialogs nor tag them while it runs. -/
theorem Reachable.tagging {r : Registry ε} (h : r.Reachable) :
    r.Shows r.memberships ∧
    (∀ key tag, r.Tags key tag (r.attach key tag.profile tag.value) ∧
      r.Untags key tag (r.detach key tag.profile tag.value)) ∧
    (∀ (s : RequestScope) tag,
      match s.current with
      | some key =>
        r.Tags key tag ((s.setProfile tag.profile tag.value r).1,
            (s.setProfile tag.profile tag.value r).2.2) ∧
          r.Untags key tag (s.unsetProfile tag.profile tag.value r)
      | none =>
        (s.setProfile tag.profile tag.value r).2.2.memberships = r.memberships ∧
          (s.unsetProfile tag.profile tag.value r).2.memberships = r.memberships) ∧
    (∀ key count d, (r.table.release key count).1 = some d →
      (r.table.release key count).2.memberships = r.memberships.filter fun m => m.dialog ≠ key) ∧
    (∀ env depth, Environment.Lawful depth env →
      (∀ op, (r.perform env op).Reachable) ∧
      ∀ (s : RequestScope) request key (tag : Tag),
        (s.begin env request r).2.Reachable ∧ (s.setDialog env request key r).2.Reachable ∧
          (s.setProfile tag.profile tag.value r).2.2.Reachable ∧
          (s.unsetProfile tag.profile tag.value r).2.Reachable) ∧
    ∀ env depth, Environment.Discreet depth env →
      (∀ (s : RequestScope) request key,
        (s.setDialog env request key r).2.memberships
          = (s.setDialog env request key r).2.linked
              ((if s.request = some request then s.pending.filterMap (r.tag? key) else [] :
                List Membership) + r.memberships)) ∧
      ∀ op : Operation, (∀ key profile value, op ≠ .attach key profile value) →
        (∀ key profile value, op ≠ .detach key profile value) →
          (r.perform env op).memberships = (r.perform env op).linked r.memberships := by
  have hwf := h.wf
  have hfiles := h.files
  refine ⟨shows_memberships hwf hfiles, fun key tag => ?_, fun s tag => ?_,
    fun key count d hlast => hwf.memberships_release hlast, fun env depth henv => ?_,
    fun env depth henv => ?_⟩
  · exact ⟨attach_tags hwf key tag, detach_untags hwf hfiles key tag⟩
  · cases hcurrent : s.current with
    | none =>
      dsimp only
      rw [setProfile_of_no_current hcurrent, unsetProfile_of_no_current hcurrent]
      exact ⟨rfl, rfl⟩
    | some key =>
      dsimp only
      rw [setProfile_of_current hcurrent, unsetProfile_of_current hcurrent]
      exact ⟨attach_tags hwf key tag, detach_untags hwf hfiles key tag⟩
  · have hany : ∀ op : Operation, ∃ depth, env.Lawful depth := fun _ => ⟨depth, henv⟩
    refine ⟨h.step henv, fun s request key tag => ⟨?_, ?_, ?_, ?_⟩⟩
    · exact h.acts (s.begin_acts hany request r)
    · exact h.acts (s.setDialog_acts hany request key r)
    · exact h.acts (s.setProfile_acts hany tag.profile tag.value r)
    · exact h.acts (s.unsetProfile_acts hany tag.profile tag.value r)
  · exact ⟨setDialog_memberships henv hwf, perform_memberships henv hwf⟩

/-! A dialog that is tagged twice with the same value. -/

/-- A registry of one bucket, with a profile of users. -/
def lobby : Registry Unit :=
  (create { hashSize := 1, profilesWithValue := "user", profileHashSize := 1 } .epoch false
    ()).toOption.getD .blank

theorem create_lobby :
    create { hashSize := 1, profilesWithValue := "user", profileHashSize := 1 } .epoch false ()
      = .ok lobby := by
  have hok : (create { hashSize := 1, profilesWithValue := "user", profileHashSize := 1 } .epoch
      false ()).isOk = true := by decide +kernel
  unfold lobby
  generalize create _ _ _ _ = created at hok ⊢
  cases created with
  | error e => cases hok
  | ok r => rfl

theorem lobby_reachable : lobby.Reachable := ⟨_, _, _, _, lobby, create_lobby, .refl _⟩

def alice : Tag := ⟨"user", some "alice"⟩

def tagged : Registry Unit :=
  lobby.performAll .quiet
    [.insert { callId := "abc", fromUri := "sip:a", toUri := "sip:b", fromTag := "t1" } 1,
      .attach ⟨0, 0⟩ alice.profile alice.value, .attach ⟨0, 0⟩ alice.profile alice.value]

theorem tagged_reachable : tagged.Reachable :=
  lobby_reachable.performAll Environment.quiet_lawful _

theorem Reachable.tagging_twice :
    (∃ p, tagged.profiles.get "user" = .ok p ∧ p.count (some "alice") = 2 ∧
      tagged.memberships.countP (fun m => m.profile = "user" ∧ m.value = some "alice") = 2) ∧
    (tagged.detach ⟨0, 0⟩ alice.profile alice.value).2.memberships
      = {⟨⟨0, 0⟩, "user", some "alice"⟩} ∧
    (tagged.perform .quiet (.release ⟨0, 0⟩ 2)).memberships = 0 := by
  obtain ⟨hshows, htags, -, -, -, hothers⟩ := Reachable.tagging tagged_reachable
  have hcount : (tagged.profiles.get "user").toOption.map
      (fun p => (p.hasValue, p.count (some "alice"))) = some (true, 2) := by decide +kernel
  cases hget : tagged.profiles.get "user" with
  | error e => simp [hget, Except.toOption] at hcount
  | ok p =>
    obtain ⟨hvalue, htwo⟩ : p.hasValue = true ∧ p.count (some "alice") = 2 := by
      simpa [hget, Except.toOption] using hcount
    refine ⟨⟨p, rfl, htwo, ?_⟩, ?_, ?_⟩
    · exact (hshows.countValue hget hvalue "alice").1.symm.trans htwo
    · have huntags : tagged.Untags ⟨0, 0⟩ alice
        (tagged.detach ⟨0, 0⟩ alice.profile alice.value) := (htags ⟨0, 0⟩ alice).2
      have hprofile : tagged.profiles.get alice.profile = .ok p := hget
      unfold Untags at huntags
      rw [hprofile] at huntags
      dsimp only at huntags
      rw [huntags.2, Profile.valueOf_of_hasValue hvalue]
      decide +kernel
    · have hreleased := (hothers .quiet 0 (Environment.quiet_callsBack _)).2
        (.release ⟨0, 0⟩ 2) nofun nofun
      rw [hreleased]
      decide +kernel

end Registry

end SipDialogs
