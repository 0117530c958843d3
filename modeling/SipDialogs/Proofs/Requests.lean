-- SUMMARY: Which tags and references a request scope passes on, told by the calls alone.
import SipDialogs.Proofs.Shares
import SipDialogs.Proofs.Tagging

/-! # Requests

A scope is told to turn to requests, to tag their dialogs and to make dialogs current, in any order,
while everybody else goes on as they like. Which tags get to which dialog, and when a reference is
given back, can be told by the calls alone: tags that wait go to the first dialog of their own
request or to none, and every reference that a scope was given is given back once. -/

namespace SipDialogs

/-! ## Tags that are accepted -/

namespace Tag

/-- The tag that is kept of one that is set, if it is accepted; `heads` tells of each profile that
there is whether it has values. -/
def accepted? (heads : String → Option Bool) (tag : Tag) : Option Tag :=
  match heads tag.profile with
  | none => none
  | some true => if tag.value.isSome then some tag else none
  | some false => some ⟨tag.profile, none⟩

/-- What a tag is once a dialog has it. -/
def on (tag : Tag) (key : Key) : Membership := ⟨key, tag.profile, tag.value⟩

theorem accepted?_of_accepted? {heads : String → Option Bool} {tag kept : Tag}
    (h : tag.accepted? heads = some kept) : kept.accepted? heads = some kept := by
  unfold accepted? at h
  split at h
  · cases h
  next hhead =>
    split at h
    next hgiven =>
      cases h
      simp [accepted?, hhead, hgiven]
    · cases h
  next hhead =>
    cases h
    simp [accepted?, hhead]

end Tag

namespace Registry

variable {r : Registry ε} {key : Key}

/-- A linked dialog gets every tag that is accepted. -/
theorem tag?_of_linked (h : r.table.isLinked key = true) (tag : Tag) :
    r.tag? key tag = (tag.accepted? r.profiles.hasValue?).map (·.on key) := by
  unfold tag? Tag.accepted?
  cases r.profiles.hasValue? tag.profile with
  | none => rfl
  | some hasValue => cases hasValue <;> cases hvalue : tag.value <;> simp [h, hvalue, Tag.on]

theorem isOk_attach (hwf : r.table.Wf) (key : Key) (tag : Tag) :
    (r.attach key tag.profile tag.value).1.isOk = (r.tag? key tag).isSome := by
  rcases attach_cases hwf key tag with ⟨e, ps, hnone, -, heq⟩ | ⟨d, l, ps, -, -, hm, -, heq⟩
  · rw [heq, hnone]
    rfl
  · rw [heq, hm]
    rfl

theorem setProfile_cases {s : RequestScope} (h : s.current = none) (tag : Tag) :
    (∃ e, tag.accepted? r.profiles.hasValue? = none ∧
      s.setProfile tag.profile tag.value r = (.error e, s, r)) ∨
    ∃ kept, tag.accepted? r.profiles.hasValue? = some kept ∧
      s.setProfile tag.profile tag.value r
        = (.ok (), { s with pending := s.pending ++ [kept] }, r) := by
  obtain ⟨profile, value⟩ := tag
  unfold RequestScope.setProfile Tag.accepted? Directory.get
  cases hsearch : r.profiles.search? profile with
  | none => exact .inl ⟨_, by simp [Directory.hasValue?, hsearch], rfl⟩
  | some p =>
    have hhas : r.profiles.hasValue? profile = some p.hasValue := by
      simp [Directory.hasValue?, hsearch]
    dsimp only
    rw [hhas, h]
    cases hvalue : p.hasValue with
    | false => exact .inr ⟨⟨profile, none⟩, rfl, by simp [Profile.valueOf, hvalue]⟩
    | true =>
      cases value with
      | none => exact .inl ⟨.missingProfileValue p.name, rfl, rfl⟩
      | some v => exact .inr ⟨⟨profile, some v⟩, rfl, by simp [Profile.valueOf, hvalue]⟩

end Registry

/-! ## Calls -/

/-- What a scope is told. The end of a scope is a reset. -/
inductive ScopeCall where
  | begin (request : Nat)
  | setProfile (profile : String) (value : Option String)
  | unsetProfile (profile : String) (value : Option String)
  | setDialog (request : Nat) (key : Key)
  | reset
  deriving DecidableEq, Repr

namespace RequestScope

variable {env : Environment ε}

def serve (env : Environment ε) (s : RequestScope) (r : Registry ε) :
    ScopeCall → RequestScope × Registry ε
  | .begin request => s.begin env request r
  | .setProfile profile value => (s.setProfile profile value r).2
  | .unsetProfile profile value => (s, (s.unsetProfile profile value r).2)
  | .setDialog request key => s.setDialog env request key r
  | .reset => s.reset env r

section

variable {s : RequestScope} {r : Registry ε} {request : Nat} {profile : String}
  {value : Option String}

theorem serve_begin_same (h : s.request = some request) :
    s.serve env r (.begin request) = (s, r) := if_pos h

theorem serve_begin_other (h : s.request ≠ some request) :
    s.serve env r (.begin request)
      = ({ request := some request }, s.releaseCurrent env r) := if_neg h

theorem serve_setProfile_of_current {key : Key} (h : s.current = some key) :
    s.serve env r (.setProfile profile value) = (s, (r.attach key profile value).2) :=
  congrArg Prod.snd (Registry.setProfile_of_current h profile value)

theorem serve_setProfile_cases (env : Environment ε) (h : s.current = none) :
    (Tag.accepted? r.profiles.hasValue? ⟨profile, value⟩ = none ∧
      s.serve env r (.setProfile profile value) = (s, r)) ∨
    ∃ kept, Tag.accepted? r.profiles.hasValue? ⟨profile, value⟩ = some kept ∧
      s.serve env r (.setProfile profile value)
        = ({ s with pending := s.pending ++ [kept] }, r) := by
  rcases Registry.setProfile_cases (r := r) h ⟨profile, value⟩ with
    ⟨e, hrefused, heq⟩ | ⟨kept, hkept, heq⟩
  · exact .inl ⟨hrefused, congrArg Prod.snd heq⟩
  · exact .inr ⟨kept, hkept, congrArg Prod.snd heq⟩

end

/-- The operation that gives the current dialog up, if there is one. -/
def letGo (s : RequestScope) : List Operation := (s.current.map (Operation.release · 1)).toList

/-- What a scope does to the registry when it is called. -/
def operations (s : RequestScope) : ScopeCall → List Operation
  | .begin request => if s.request = some request then [] else s.letGo
  | .setProfile profile value => (s.current.map (Operation.attach · profile value)).toList
  | .unsetProfile profile value => (s.current.map (Operation.detach · profile value)).toList
  | .setDialog request key =>
    (if s.request = some request then
      s.pending.map fun tag => Operation.attach key tag.profile tag.value
    else []) ++ s.letGo
  | .reset => s.letGo

theorem releaseCurrent_eq (s : RequestScope) (r : Registry ε) :
    s.releaseCurrent env r = r.performAll env s.letGo := by
  unfold releaseCurrent letGo
  cases s.current <;> rfl

theorem attachTags_eq (env : Environment ε) (key : Key) (tags : List Tag) (r : Registry ε) :
    attachTags key tags r
      = r.performAll env (tags.map fun tag => Operation.attach key tag.profile tag.value) := by
  unfold attachTags Registry.performAll
  rw [List.foldl_map]
  rfl

/-- A call comes to its operations. -/
theorem serve_eq (s : RequestScope) (r : Registry ε) (c : ScopeCall) :
    (s.serve env r c).2 = r.performAll env (s.operations c) := by
  cases c with
  | begin request =>
    unfold serve operations RequestScope.begin
    dsimp only
    split
    · rfl
    · exact s.releaseCurrent_eq r
  | reset => exact s.releaseCurrent_eq r
  | setDialog request key =>
    unfold serve operations setDialog
    dsimp only
    split
    · rw [releaseCurrent_eq, attachTags_eq env, Registry.performAll,
        Registry.performAll, Registry.performAll, List.foldl_append]
    · exact s.releaseCurrent_eq r
  | setProfile profile value =>
    unfold serve operations
    dsimp only
    cases hcurrent : s.current with
    | none => exact Registry.setProfile_of_no_current hcurrent profile value
    | some key => rw [Registry.setProfile_of_current hcurrent]; rfl
  | unsetProfile profile value =>
    unfold serve operations
    dsimp only
    cases hcurrent : s.current with
    | none => exact Registry.unsetProfile_of_no_current hcurrent profile value
    | some key => rw [Registry.unsetProfile_of_current hcurrent]; rfl

end RequestScope

/-! ## Deeds -/

/-- What others notice of a scope. -/
inductive Deed where
  /-- A dialog is tagged. -/
  | tagged (m : Membership)
  /-- A reference is given back. -/
  | returned (key : Key)
  deriving DecidableEq, Repr

namespace Deed

def tagged? : Deed → Option Membership
  | .tagged m => some m
  | .returned _ => none

def returned? : Deed → Option Key
  | .tagged _ => none
  | .returned key => some key

end Deed

/-- The references that an operation of a scope gives back. -/
def Operation.returns : Operation → List Key
  | .release key count => List.replicate count key
  | _ => []

namespace Registry

variable {r : Registry ε} {env : Environment ε} {key : Key}

/-- What others notice of an operation: the link that a dialog has more, and references that are
given back. -/
def deedsOf (r : Registry ε) : Operation → List Deed
  | .attach key profile value =>
    match r.attach key profile value with
    | (.ok (), r') =>
      (((r'.table.find? key).bind (·.links.getLast?)).map fun l =>
        Deed.tagged (l.membership key)).toList
    | (.error _, _) => []
  | op => op.returns.map .returned

/-- What others notice of a run. -/
def deeds (env : Environment ε) (r : Registry ε) : List Operation → List Deed
  | [] => []
  | op :: ops => r.deedsOf op ++ (r.perform env op).deeds env ops

theorem deeds_append (r : Registry ε) (ops ops' : List Operation) :
    r.deeds env (ops ++ ops') = r.deeds env ops ++ (r.performAll env ops).deeds env ops' := by
  induction ops generalizing r with
  | nil => rfl
  | cons op ops ih =>
    rw [List.cons_append, deeds, deeds, ih, List.append_assoc]
    rfl

theorem deedsOf_attach (hwf : r.table.Wf) (key : Key) (tag : Tag) :
    r.deedsOf (.attach key tag.profile tag.value) = ((r.tag? key tag).map .tagged).toList := by
  unfold deedsOf
  rcases attach_cases hwf key tag with
    ⟨e, ps, hnone, -, heq⟩ | ⟨d, l, ps, hfind, hkey, hm, -, heq⟩
  · simp [heq, hnone]
  · have hput := Table.find?_put_of_linked (d := { d with links := d.links ++ [l] })
      (hkey ▸ hfind) key
    rw [if_pos hkey.symm] at hput
    simp [heq, hm, hput]

/-- Tags that are made one after another are seen in this order. -/
theorem deeds_attachAll (hwf : r.table.Wf) (key : Key) (tags : List Tag) :
    r.deeds env (tags.map fun tag => .attach key tag.profile tag.value)
      = (tags.filterMap (r.tag? key)).map .tagged := by
  induction tags generalizing r with
  | nil => rfl
  | cons tag tags ih =>
    have hwf' : (r.attach key tag.profile tag.value).2.table.Wf :=
      Edits.wf (attach_edits hwf key tag.profile tag.value []) hwf
    have hrest := ih hwf'
    rw [tag?_attach hwf key tag] at hrest
    rw [List.map_cons, deeds, deedsOf_attach hwf]
    refine (congrArg (_ ++ ·) hrest).trans ?_
    cases hm : r.tag? key tag with
    | none => rw [List.filterMap_cons_none hm]; rfl
    | some m => rw [List.filterMap_cons_some hm]; rfl

/-- What is given back does not depend on the registry. -/
theorem returned_deeds (r : Registry ε) (ops : List Operation) :
    (r.deeds env ops).filterMap Deed.returned? = ops.flatMap Operation.returns := by
  induction ops generalizing r with
  | nil => rfl
  | cons op ops ih =>
    have hone : (r.deedsOf op).filterMap Deed.returned? = op.returns := by
      unfold deedsOf
      split
      · split
        · cases ((_ : Registry ε).table.find? _).bind _ <;> rfl
        · rfl
      · simp [List.filterMap_map, Function.comp_def, Deed.returned?]
    rw [deeds, List.filterMap_append, hone, ih, List.flatMap_cons]

end Registry

/-! ## What can be told by the calls

No registry is needed to say which dialog a tag is for and what is given back. -/

/-- What a scope has in hand. -/
structure InHand where
  request : Option Nat := none
  current : Option Key := none
  deriving DecidableEq, Repr

/-- Whether a call makes a dialog the current one. -/
def ScopeCall.sets (key : Key) : ScopeCall → Bool
  | .setDialog _ other => other == key
  | _ => false

/-- The first dialog that is made current for a request, if it is before any call that turns to
another request or to none. -/
def dialogFor? (request : Nat) : List ScopeCall → Option Key
  | [] => none
  | .begin other :: calls => if other = request then dialogFor? request calls else none
  | .setProfile _ _ :: calls => dialogFor? request calls
  | .unsetProfile _ _ :: calls => dialogFor? request calls
  | .setDialog other key :: _ => if other = request then some key else none
  | .reset :: _ => none

namespace InHand

def after (h : InHand) : ScopeCall → InHand
  | .begin request => if h.request = some request then h else { request := some request }
  | .setDialog request key => { request := some request, current := some key }
  | .reset => {}
  | _ => h

/-- A reference is given back when another dialog is made current and when the request is left. -/
def returned (h : InHand) : ScopeCall → List Key
  | .begin request => if h.request = some request then [] else h.current.toList
  | .setDialog _ _ => h.current.toList
  | .reset => h.current.toList
  | _ => []

/-- All references that are given back, in order. -/
def returns (h : InHand) : List ScopeCall → List Key
  | [] => []
  | c :: calls => h.returned c ++ (h.after c).returns calls

/-- The dialog that a tag is for when it is set before these calls: the current one or, if there is
none, the first that is made current for the request. -/
def receiver? (h : InHand) (calls : List ScopeCall) : Option Key :=
  h.current.or (h.request.bind (dialogFor? · calls))

/-- The membership that a call asks for. -/
def granted (heads : String → Option Bool) (h : InHand) (c : ScopeCall)
    (calls : List ScopeCall) : Option Membership :=
  match c with
  | .setProfile profile value =>
    (Tag.accepted? heads ⟨profile, value⟩).bind fun tag => (h.receiver? calls).map tag.on
  | _ => none

/-- All memberships that are asked for, in the order in which the tags are set. -/
def grants (heads : String → Option Bool) (h : InHand) : List ScopeCall → List Membership
  | [] => []
  | c :: calls => (h.granted heads c calls).toList ++ (h.after c).grants heads calls

/-- A scope is given one reference with each dialog, gives one back for each, and has the one on the
current dialog in between. -/
theorem count_returns (h : InHand) (calls : List ScopeCall) (key : Key) :
    (h.returns calls).count key + (calls.foldl after h).current.toList.count key
      = calls.countP (·.sets key) + h.current.toList.count key := by
  induction calls generalizing h with
  | nil => simp [returns]
  | cons c calls ih =>
    have hone : (h.returned c).count key + (h.after c).current.toList.count key
        = (if c.sets key then 1 else 0) + h.current.toList.count key := by
      cases c with
      | begin request =>
        by_cases hsame : h.request = some request <;>
          simp [returned, after, ScopeCall.sets, hsame]
      | setDialog request other =>
        simp [returned, after, ScopeCall.sets, List.count_singleton, Nat.add_comm]
      | reset => simp [returned, after, ScopeCall.sets]
      | setProfile profile value => simp [returned, after, ScopeCall.sets]
      | unsetProfile profile value => simp [returned, after, ScopeCall.sets]
    have hrest := ih (h.after c)
    rw [returns, List.count_append, List.foldl_cons, List.countP_cons]
    omega

end InHand

namespace RequestScope

variable {env : Environment ε} {heads : String → Option Bool}

def inHand (s : RequestScope) : InHand := ⟨s.request, s.current⟩

/-- The memberships that pending tags lead to. -/
def waiting (s : RequestScope) (calls : List ScopeCall) : List Membership :=
  s.pending.filterMap fun tag => (s.inHand.receiver? calls).map tag.on

/-- All memberships that are still to come. -/
def due (heads : String → Option Bool) (s : RequestScope) (calls : List ScopeCall) :
    List Membership :=
  s.waiting calls ++ s.inHand.grants heads calls

theorem serve_inHand (s : RequestScope) (r : Registry ε) (c : ScopeCall) :
    (s.serve env r c).1.inHand = s.inHand.after c := by
  cases c with
  | begin request =>
    by_cases hsame : s.request = some request
    · rw [serve_begin_same hsame]
      exact (if_pos hsame).symm
    · rw [serve_begin_other hsame]
      exact (if_neg hsame).symm
  | setDialog request key => rfl
  | reset => rfl
  | unsetProfile profile value => rfl
  | setProfile profile value =>
    cases hcurrent : s.current with
    | some key =>
      rw [serve_setProfile_of_current hcurrent]
      rfl
    | none =>
      rcases serve_setProfile_cases env hcurrent with ⟨-, heq⟩ | ⟨kept, -, heq⟩
      · rw [heq]
        rfl
      · rw [heq]
        rfl

theorem returns_operations (s : RequestScope) (c : ScopeCall) :
    (s.operations c).flatMap Operation.returns = s.inHand.returned c := by
  have hletGo : s.letGo.flatMap Operation.returns = s.current.toList := by
    unfold letGo
    cases s.current <;> rfl
  have hnone : ∀ f : Key → Operation, (∀ key, (f key).returns = []) →
      (s.current.map f).toList.flatMap Operation.returns = [] := by
    intro f hf
    cases s.current <;> simp [hf]
  cases c with
  | begin request =>
    unfold operations InHand.returned inHand
    dsimp only
    split
    · rfl
    · exact hletGo
  | setProfile profile value => exact hnone _ fun _ => rfl
  | unsetProfile profile value => exact hnone _ fun _ => rfl
  | setDialog request key =>
    have htags : (if s.request = some request then
          s.pending.map fun tag => Operation.attach key tag.profile tag.value
        else []).flatMap Operation.returns = [] := by
      split
      · simp [List.flatMap_map, Operation.returns]
      · rfl
    unfold operations
    dsimp only
    rw [List.flatMap_append, htags, hletGo]
    rfl
  | reset => exact hletGo

end RequestScope

/-! ## One call -/

/-- A scope at work on a registry, and what everybody else but the surroundings owns. -/
structure Desk (ε : Type) where
  scope : RequestScope
  registry : Registry ε
  others : Ledger

/-- Whoever makes a dialog current has a reference on it, which goes over to the scope. -/
def ScopeCall.Owned (L : Ledger) : ScopeCall → Prop
  | .setDialog _ key => 1 ≤ (L key).refs
  | _ => True

/-- What everybody else owns after a call. -/
def Ledger.handOver (L : Ledger) : ScopeCall → Ledger
  | .setDialog _ key => L.give key 1
  | _ => L

namespace Desk

variable {own : ε → Ledger} {heads : String → Option Bool} {env : Environment ε} {k : Desk ε}

def serve (env : Environment ε) (k : Desk ε) (c : ScopeCall) : Desk ε where
  scope := (k.scope.serve env k.registry c).1
  registry := (k.scope.serve env k.registry c).2
  others := k.others.handOver c

/-- What others notice of a call. -/
def deeds (env : Environment ε) (k : Desk ε) (c : ScopeCall) : List Deed :=
  k.registry.deeds env (k.scope.operations c)

/-- Every reference is owned by somebody, and the scope owns one on its current dialog and no
other. -/
def Balanced (own : ε → Ledger) (k : Desk ε) : Prop :=
  (k.others + .one k.scope.current).Covers own k.registry

/-- A current dialog is linked: the scope has a reference on it. -/
theorem Balanced.isLinked (h : k.Balanced own) {key : Key} (hcurrent : k.scope.current = some key) :
    k.registry.table.isLinked key = true := by
  unfold Balanced at h
  rw [hcurrent] at h
  exact h.isLinked (by simp [Ledger.one, Account.add_def])

/-- What every call keeps up. -/
structure Sound (own : ε → Ledger) (heads : String → Option Bool) (k : Desk ε) : Prop where
  balanced : k.Balanced own
  profiles : k.registry.profiles.hasValue? = heads
  idle : k.scope.current.isSome = true → k.scope.pending = []
  accepted : ∀ tag ∈ k.scope.pending, tag.accepted? heads = some tag

end Desk

namespace RequestScope

variable {own : ε → Ledger} {heads : String → Option Bool} {env : Environment ε} {L : Ledger}
  {r : Registry ε}

/-- The reference on the current dialog is the scope's own to give back. -/
theorem releaseCurrent_covers (hfair : env.Fair own) (s : RequestScope)
    (h : (L + .one s.current).Covers own r) : L.Covers own (s.releaseCurrent env r) := by
  unfold releaseCurrent
  cases hcurrent : s.current with
  | none =>
    rw [hcurrent] at h
    exact h
  | some key =>
    rw [hcurrent] at h
    have hone : 1 ≤ ((L + Ledger.one (some key)) key).refs := by
      simp [Account.add_def, Ledger.one]
    have hreleased := h.release hfair hone
    rwa [Ledger.give_add_one] at hreleased

/-- Tags that are accepted are links of a linked dialog from then on, in order and behind those that
it has. No other dialog gets any. -/
theorem find?_attachTags (hwf : r.table.Wf) {key : Key} {d : Dialog}
    (hfind : r.table.find? key = some d) {tags : List Tag}
    (haccepted : ∀ tag ∈ tags, tag.accepted? r.profiles.hasValue? = some tag) :
    ∃ links : List Link, links.map (·.membership key) = tags.map (·.on key) ∧
      ∀ other, (attachTags key tags r).table.find? other
        = if other = key then some { d with links := d.links ++ links }
          else r.table.find? other := by
  obtain rfl : d.key = key := hwf.key_of_find? hfind
  induction tags generalizing r d with
  | nil =>
    refine ⟨[], rfl, fun other => ?_⟩
    split
    next heq => rw [heq, List.append_nil]; exact hfind
    next => rfl
  | cons tag tags ih =>
    obtain ⟨hfirst, hrest⟩ := List.forall_mem_cons.1 haccepted
    have hlinked : r.table.isLinked d.key = true := by rw [Table.isLinked, hfind]; rfl
    have htag : r.tag? d.key tag = some (tag.on d.key) := by
      rw [Registry.tag?_of_linked hlinked, hfirst]
      rfl
    rcases Registry.attach_cases hwf d.key tag with
      ⟨e, ps, hnone, -, -⟩ | ⟨d', l, ps, hfind', -, hl, hprofiles, heq⟩
    · rw [htag] at hnone
      cases hnone
    obtain rfl : d = d' := Option.some.inj (hfind.symm.trans hfind')
    rw [htag] at hl
    have hwf' : (r.attach d.key tag.profile tag.value).2.table.Wf :=
      (Registry.attach_edits hwf d.key tag.profile tag.value []).wf hwf
    have hput := Table.find?_put_of_linked (d := { d with links := d.links ++ [l] }) hfind
    have hmade : (attachTags d.key (tag :: tags) r)
        = attachTags d.key tags (r.attach d.key tag.profile tag.value).2 := rfl
    rw [heq] at hwf' hmade
    rw [← hprofiles] at hrest
    obtain ⟨links, hlinks, hothers⟩ :=
      ih (d := { d with links := d.links ++ [l] }) hwf' hrest ((hput d.key).trans (if_pos rfl))
    refine ⟨l :: links, ?_, fun other => ?_⟩
    · rw [List.map_cons, List.map_cons, hlinks, ← Option.some.inj hl]
    · rw [hmade, hothers other]
      split
      next => rw [List.append_assoc]; rfl
      next hne => exact (hput other).trans (if_neg hne)

theorem attachTags_covers (h : L.Covers own r) (key : Key) (tags : List Tag) :
    L.Covers own (attachTags key tags r) := by
  induction tags generalizing r with
  | nil => exact h
  | cons tag tags ih => exact ih (h.attach key tag.profile tag.value)

theorem setDialog_covers (hfair : env.Fair own) (s : RequestScope)
    (h : (L + .one s.current).Covers own r) (request : Nat) (key : Key) :
    L.Covers own (s.setDialog env request key r).2 := by
  unfold setDialog
  dsimp only
  split
  · exact s.releaseCurrent_covers hfair (attachTags_covers h key s.pending)
  · exact s.releaseCurrent_covers hfair h

/-- No membership waits if no dialog is going to be made current for the request. -/
theorem waiting_eq_nil {s : RequestScope} {calls : List ScopeCall}
    (hidle : s.current.isSome = true → s.pending = [])
    (hnone : s.request.bind (dialogFor? · calls) = none) : s.waiting calls = [] := by
  unfold waiting InHand.receiver? inHand
  cases hcurrent : s.current with
  | some key => rw [hidle (by simp [hcurrent])]; rfl
  | none => simp [hnone]

theorem tagged_letGo (s : RequestScope) (r : Registry ε) :
    (r.deeds env s.letGo).filterMap Deed.tagged? = [] := by
  unfold letGo
  cases s.current <;> rfl

/-- A dialog that is made current gets what waits for it, in order. -/
theorem tagged_setDialog {s : RequestScope} {key : Key} (hwf : r.table.Wf)
    (hlinked : r.table.isLinked key = true) (hidle : s.current.isSome = true → s.pending = [])
    (haccepted : ∀ tag ∈ s.pending, tag.accepted? r.profiles.hasValue? = some tag)
    (request : Nat) (calls : List ScopeCall) :
    (r.deeds env (s.operations (.setDialog request key))).filterMap Deed.tagged?
      = s.waiting (.setDialog request key :: calls) := by
  unfold operations
  dsimp only
  rw [Registry.deeds_append, List.filterMap_append, s.tagged_letGo, List.append_nil]
  by_cases hsame : s.request = some request
  · have hmade : s.pending.filterMap (r.tag? key) = s.pending.map (·.on key) := by
      rw [← List.filterMap_eq_map]
      refine List.filterMap_congr fun tag htag => ?_
      rw [Registry.tag?_of_linked hlinked, haccepted tag htag]
      rfl
    have hwaiting : s.waiting (.setDialog request key :: calls) = s.pending.map (·.on key) := by
      unfold waiting
      cases hcurrent : s.current with
      | some other => simp [hidle (by simp [hcurrent])]
      | none => simp [inHand, InHand.receiver?, hcurrent, hsame, dialogFor?]
    rw [if_pos hsame, Registry.deeds_attachAll hwf, hmade, hwaiting]
    simp [List.filterMap_map, Function.comp_def, Deed.tagged?]
  · have hnone : s.request.bind (dialogFor? · (.setDialog request key :: calls)) = none := by
      cases hrequest : s.request with
      | none => rfl
      | some other => exact if_neg fun heq : request = other => hsame (heq ▸ hrequest)
    rw [if_neg hsame, waiting_eq_nil hidle hnone]
    rfl

/-- A tag goes to the current dialog right away. -/
theorem tagged_setProfile {s : RequestScope} {key : Key} (hwf : r.table.Wf)
    (hlinked : r.table.isLinked key = true) (hcurrent : s.current = some key) (profile : String)
    (value : Option String) (calls : List ScopeCall) :
    (r.deeds env (s.operations (.setProfile profile value))).filterMap Deed.tagged?
      = (s.inHand.granted r.profiles.hasValue? (.setProfile profile value) calls).toList := by
  have hmade : r.deeds env (s.operations (.setProfile profile value))
      = ((r.tag? key ⟨profile, value⟩).map .tagged).toList := by
    rw [← Registry.deedsOf_attach hwf]
    simp [operations, hcurrent, Registry.deeds]
  rw [hmade, Registry.tag?_of_linked hlinked]
  simp only [InHand.granted, InHand.receiver?, inHand, hcurrent, Option.some_or]
  cases Tag.accepted? r.profiles.hasValue? ⟨profile, value⟩ <;> rfl

/-- A tag that is accepted while there is no current dialog waits behind the others. -/
theorem waiting_setProfile {s : RequestScope} (hcurrent : s.current = none) (profile : String)
    (value : Option String) (calls : List ScopeCall) :
    (s.serve env r (.setProfile profile value)).1.waiting calls
      = s.waiting calls
        ++ (s.inHand.granted r.profiles.hasValue? (.setProfile profile value) calls).toList := by
  rcases serve_setProfile_cases env hcurrent with ⟨hrefused, hserve⟩ | ⟨kept, hkept, hserve⟩
  · rw [hserve]
    simp [InHand.granted, hrefused]
  · have hlast : ([kept].filterMap fun tag => (s.inHand.receiver? calls).map tag.on)
        = ((s.inHand.receiver? calls).map kept.on).toList := by
      cases s.inHand.receiver? calls <;> rfl
    rw [hserve]
    simp only [InHand.granted, hkept, Option.bind_some]
    rw [← hlast]
    exact List.filterMap_append ..

end RequestScope

namespace Desk.Sound

variable {own : ε → Ledger} {heads : String → Option Bool} {env : Environment ε} {k : Desk ε}
  {depth : Nat}

theorem of_cleared (hbalanced : k.Balanced own) (hprofiles : k.registry.profiles.hasValue? = heads)
    (hpending : k.scope.pending = []) : k.Sound own heads where
  balanced := hbalanced
  profiles := hprofiles
  idle _ := hpending
  accepted := by simp [hpending]

/-- A call leaves a sound desk. -/
theorem serve (hk : k.Sound own heads) (hfair : env.Fair own) (henv : env.Lawful depth)
    {c : ScopeCall} (hown : c.Owned k.others) : (k.serve env c).Sound own heads := by
  obtain ⟨s, r, L⟩ := k
  have hbalanced : (L + .one s.current).Covers own r := hk.balanced
  have hprofiles : (s.serve env r c).2.profiles.hasValue? = heads := by
    have hacts : Registry.Acts (fun env _ => ∃ depth, Environment.Lawful depth env) r
        (s.serve env r c).2 := by
      rw [s.serve_eq r c]
      exact Registry.performAll_acts r fun _ _ => ⟨depth, henv⟩
    exact (hacts.hasValue? hbalanced.wf).trans hk.profiles
  cases c with
  | begin request =>
    unfold Desk.serve
    by_cases hsame : s.request = some request
    · rw [RequestScope.serve_begin_same hsame]
      exact hk
    · rw [RequestScope.serve_begin_other hsame] at hprofiles ⊢
      exact .of_cleared (s.releaseCurrent_covers hfair hbalanced) hprofiles rfl
  | setDialog request key =>
    refine .of_cleared ?_ hprofiles rfl
    show (L.give key 1 + .one (some key)).Covers own _
    rw [Ledger.give_one_add hown]
    exact s.setDialog_covers hfair hbalanced request key
  | reset => exact .of_cleared (s.releaseCurrent_covers hfair hbalanced) hprofiles rfl
  | unsetProfile profile value =>
    refine ⟨?_, hprofiles, hk.idle, hk.accepted⟩
    show (L + .one s.current).Covers own (s.unsetProfile profile value r).2
    cases hcurrent : s.current with
    | none =>
      rw [Registry.unsetProfile_of_no_current hcurrent, ← hcurrent]
      exact hbalanced
    | some key =>
      rw [Registry.unsetProfile_of_current hcurrent, ← hcurrent]
      exact hbalanced.detach key profile value
  | setProfile profile value =>
    unfold Desk.serve
    cases hcurrent : s.current with
    | some key =>
      rw [RequestScope.serve_setProfile_of_current hcurrent] at hprofiles ⊢
      exact ⟨hbalanced.attach key profile value, hprofiles, hk.idle, hk.accepted⟩
    | none =>
      rcases RequestScope.serve_setProfile_cases env hcurrent with
        ⟨-, hserve⟩ | ⟨kept, hkept, hserve⟩
      · rw [hserve]
        exact hk
      · rw [hserve]
        refine ⟨hbalanced, hk.profiles, fun hsome => ?_, fun tag htag => ?_⟩
        · simp [hcurrent] at hsome
        · rcases List.mem_append.1 htag with htag | htag
          · exact hk.accepted tag htag
          · obtain rfl := List.mem_singleton.1 htag
            exact Tag.accepted?_of_accepted? (hk.profiles ▸ hkept)

/-- What waits or is asked for by a call is made by then, or waits from then on. -/
theorem waiting_serve (hk : k.Sound own heads) {c : ScopeCall} (hown : c.Owned k.others)
    (calls : List ScopeCall) :
    k.scope.waiting (c :: calls) ++ (k.scope.inHand.granted heads c calls).toList
      = (k.deeds env c).filterMap Deed.tagged? ++ (k.serve env c).scope.waiting calls := by
  obtain ⟨s, r, L⟩ := k
  have hbalanced : (L + .one s.current).Covers own r := hk.balanced
  obtain rfl : r.profiles.hasValue? = heads := hk.profiles
  have hidle : s.current.isSome = true → s.pending = [] := hk.idle
  unfold Desk.serve Desk.deeds
  dsimp only
  cases c with
  | begin request =>
    by_cases hsame : s.request = some request
    · rw [RequestScope.serve_begin_same hsame]
      simp [RequestScope.operations, hsame, Registry.deeds, RequestScope.waiting,
        RequestScope.inHand, InHand.receiver?, InHand.granted, dialogFor?]
    · -- what waits is dropped, and no dialog was to get it
      have hnone : s.request.bind (dialogFor? · (.begin request :: calls)) = none := by
        cases hrequest : s.request with
        | none => rfl
        | some other => exact if_neg fun heq : request = other => hsame (heq ▸ hrequest)
      rw [RequestScope.serve_begin_other hsame, RequestScope.waiting_eq_nil hidle hnone,
        RequestScope.operations, if_neg hsame, s.tagged_letGo]
      rfl
  | setDialog request key =>
    have hlinked : r.table.isLinked key = true :=
      hbalanced.isLinked (Nat.lt_of_lt_of_le hown (Nat.le_add_right _ _))
    rw [RequestScope.tagged_setDialog hbalanced.wf hlinked hidle hk.accepted request calls]
    rfl
  | reset =>
    have hnone : s.request.bind (dialogFor? · (.reset :: calls)) = none := by
      cases s.request <;> rfl
    rw [RequestScope.waiting_eq_nil hidle hnone, RequestScope.operations, s.tagged_letGo]
    rfl
  | unsetProfile profile value =>
    have hnothing : r.deeds env (s.operations (.unsetProfile profile value)) = [] := by
      unfold RequestScope.operations
      cases s.current <;> rfl
    rw [hnothing]
    exact List.append_nil _
  | setProfile profile value =>
    cases hcurrent : s.current with
    | some key =>
      have hlinked : r.table.isLinked key = true := hk.balanced.isLinked hcurrent
      have hnothing : ∀ calls, s.waiting calls = [] := by
        intro calls
        simp [RequestScope.waiting, hidle (by simp [hcurrent])]
      rw [RequestScope.serve_setProfile_of_current hcurrent, hnothing, hnothing,
        RequestScope.tagged_setProfile hbalanced.wf hlinked hcurrent profile value calls]
      exact (List.append_nil _).symm
    | none =>
      have hnothing : r.deeds env (s.operations (.setProfile profile value)) = [] := by
        simp [RequestScope.operations, hcurrent, Registry.deeds]
      rw [hnothing, RequestScope.waiting_setProfile hcurrent]
      rfl

end Desk.Sound

/-! ## Runs of calls -/

namespace Desk

variable {own : ε → Ledger} {heads : String → Option Bool} {env : Environment ε}
  {k k' : Desk ε} {calls : List ScopeCall} {noticed : List Deed} {depth : Nat}

/-- A scope is called over and over, with what others notice of it. Between calls everybody else
does what they like, as long as they give back nothing but their own. -/
inductive Works (own : ε → Ledger) (env : Environment ε) :
    Desk ε → List ScopeCall → List Deed → Desk ε → Prop where
  | nil (k : Desk ε) : Works own env k [] [] k
  | others {k k' : Desk ε} {calls : List ScopeCall} {noticed : List Deed} {r : Registry ε}
      {L : Ledger}
      (hacts : Registry.Acts (fun env _ => ∃ depth, Environment.Lawful depth env) k.registry r)
      (hbalanced : Desk.Balanced own ⟨k.scope, r, L⟩)
      (hrest : Works own env ⟨k.scope, r, L⟩ calls noticed k') : Works own env k calls noticed k'
  | call {k k' : Desk ε} {c : ScopeCall} {calls : List ScopeCall} {noticed : List Deed}
      (hown : c.Owned k.others) (hrest : Works own env (k.serve env c) calls noticed k') :
      Works own env k (c :: calls) (k.deeds env c ++ noticed) k'

theorem Sound.others (hk : k.Sound own heads) {r : Registry ε} {L : Ledger}
    (hacts : Registry.Acts (fun env _ => ∃ depth, Environment.Lawful depth env) k.registry r)
    (hbalanced : Desk.Balanced own ⟨k.scope, r, L⟩) :
    Sound own heads ⟨k.scope, r, L⟩ :=
  ⟨hbalanced, (hacts.hasValue? hk.balanced.wf).trans hk.profiles, hk.idle, hk.accepted⟩

namespace Works

theorem sound (h : Works own env k calls noticed k') (hfair : env.Fair own)
    (henv : env.Lawful depth) (hk : k.Sound own heads) : k'.Sound own heads := by
  induction h with
  | nil k => exact hk
  | others hacts hbalanced _ ih => exact ih (hk.others hacts hbalanced)
  | call hown _ ih => exact ih (hk.serve hfair henv hown)

theorem inHand (h : Works own env k calls noticed k') :
    k'.scope.inHand = calls.foldl InHand.after k.scope.inHand := by
  induction h with
  | nil k => rfl
  | others _ _ _ ih => exact ih
  | @call k _ c _ _ _ _ ih =>
    rw [ih, List.foldl_cons, ← k.scope.serve_inHand k.registry c]
    rfl

theorem returned (h : Works own env k calls noticed k') :
    noticed.filterMap Deed.returned? = k.scope.inHand.returns calls := by
  induction h with
  | nil k => rfl
  | others _ _ _ ih => exact ih
  | @call k _ c _ _ _ _ ih =>
    rw [List.filterMap_append, ih, InHand.returns, deeds, Registry.returned_deeds,
      RequestScope.returns_operations, ← k.scope.serve_inHand k.registry c]
    rfl

/-- The tags that others notice are those that were due: those that waited, then those that are set
along the way. -/
theorem tagged (h : Works own env k calls noticed k') (hfair : env.Fair own)
    (henv : env.Lawful depth) (hk : k.Sound own heads) :
    noticed.filterMap Deed.tagged? = k.scope.due heads calls := by
  induction h with
  | nil k =>
    have hnone : k.scope.request.bind (dialogFor? · []) = none := by
      cases k.scope.request <;> rfl
    rw [RequestScope.due, RequestScope.waiting_eq_nil hk.idle hnone]
    rfl
  | others hacts hbalanced _ ih => exact ih (hk.others hacts hbalanced)
  | @call k _ c calls _ hown _ ih =>
    -- what is due is made by the call or is still due after it
    have hrest := ih (hk.serve hfair henv hown)
    have hafter : (k.serve env c).scope.inHand = k.scope.inHand.after c :=
      k.scope.serve_inHand k.registry c
    rw [List.filterMap_append, hrest, RequestScope.due, hafter, ← List.append_assoc,
      ← hk.waiting_serve hown, List.append_assoc]
    rfl

end Works

/-- How a scope that was new stands after a run of calls, and what others noticed of it, told by the
calls. -/
structure KeepsTo (own : ε → Ledger) (env : Environment ε) (heads : String → Option Bool)
    (k : Desk ε) (calls : List ScopeCall) (noticed : List Deed) : Prop where
  balanced : k.Balanced own
  linked : ∀ key, k.scope.current = some key → k.registry.table.isLinked key = true
  inHand : k.scope.inHand = calls.foldl InHand.after {}
  /-- Tags wait only while there is no current dialog. -/
  idle : k.scope.current.isSome = true → k.scope.pending = []
  /-- The next tag would be accepted for what it is, whatever dialog it is for. -/
  answers : ∀ profile value, (k.scope.setProfile profile value k.registry).1.isOk
    = (Tag.accepted? heads ⟨profile, value⟩).isSome
  /-- Whatever the scope is told next, it does what it is noticed for, and nothing else. -/
  does : ∀ c, (k.serve env c).registry = k.registry.performAll env (k.scope.operations c)
  /-- A dialog that is made current next for the request gets the tags that wait as links of its
  own, in order and behind those that it has, and no other dialog gets any. -/
  attaches : ∀ key d, k.registry.table.find? key = some d → ∃ links : List Link,
    links.map (·.membership key) = k.scope.pending.map (·.on key) ∧
    ∀ other, (RequestScope.attachTags key k.scope.pending k.registry).table.find? other
      = if other = key then some { d with links := d.links ++ links }
        else k.registry.table.find? other
  returned : noticed.filterMap Deed.returned? = InHand.returns {} calls
  /-- For each time that a dialog was made current, one reference is given back or still held. -/
  once : ∀ key, (noticed.filterMap Deed.returned?).count key + k.scope.current.toList.count key
    = calls.countP (·.sets key)
  tagged : noticed.filterMap Deed.tagged? = InHand.grants heads {} calls

/-- Whether a tag is accepted does not depend on the dialog. -/
theorem Sound.isOk_setProfile (hk : k.Sound own heads) (profile : String)
    (value : Option String) : (k.scope.setProfile profile value k.registry).1.isOk
      = (Tag.accepted? heads ⟨profile, value⟩).isSome := by
  rw [← hk.profiles]
  cases hcurrent : k.scope.current with
  | some key =>
    rw [Registry.setProfile_of_current hcurrent,
      Registry.isOk_attach hk.balanced.wf key ⟨profile, value⟩,
      Registry.tag?_of_linked (hk.balanced.isLinked hcurrent), Option.isSome_map]
  | none =>
    rcases Registry.setProfile_cases (r := k.registry) hcurrent ⟨profile, value⟩ with
      ⟨e, hrefused, heq⟩ | ⟨kept, hkept, heq⟩
    · rw [hrefused, heq]
      rfl
    · rw [hkept, heq]
      rfl

/-- A scope keeps tags and references to their own requests, however it is called and whatever
others do in between. It owns one reference on its current dialog, which it gives back once: when
another takes its place, when the request is left, at a reset and at the end. Tags wait only while
no dialog is current. Each that is accepted is made once, in order, on the current dialog or else on
the first that is made current for the request, and on none if the request is left before. -/
theorem Works.keeps_to_request {k₀ : Desk ε} (hfair : env.Fair own) (henv : env.Lawful depth)
    (hnew : k₀.scope = {}) (hbalanced : k₀.Balanced own)
    (h : Works own env k₀ calls noticed k) :
    k.KeepsTo own env k₀.registry.profiles.hasValue? calls noticed := by
  have hempty : k₀.scope.pending = [] := by rw [hnew]
  have hstart : k₀.Sound own k₀.registry.profiles.hasValue? := .of_cleared hbalanced rfl hempty
  have hk := h.sound hfair henv hstart
  have hfirst : k₀.scope.inHand = {} := by rw [hnew]; rfl
  have hinHand := h.inHand
  have hreturned := h.returned
  have htagged := h.tagged hfair henv hstart
  rw [hfirst] at hinHand hreturned
  rw [RequestScope.due, RequestScope.waiting, hempty, hfirst] at htagged
  have hattaches := fun key d (hd : k.registry.table.find? key = some d) =>
    RequestScope.find?_attachTags hk.balanced.wf hd (hk.profiles.symm ▸ hk.accepted)
  refine ⟨hk.balanced, fun key => hk.balanced.isLinked, hinHand, hk.idle, hk.isOk_setProfile,
    fun c => k.scope.serve_eq k.registry c, hattaches, hreturned, fun key => ?_, htagged⟩
  have hcurrent : k.scope.current = (calls.foldl InHand.after {}).current :=
    congrArg InHand.current hinHand
  rw [hreturned, hcurrent]
  exact InHand.count_returns {} calls key

/-! A caller who is tagged before the call is found. -/

/-- A call without transactions comes in. -/
def ring : Operation :=
  .insert { callId := "abc", fromUri := "sip:a", toUri := "sip:b", fromTag := "t1" } 0

def ringing : Registry Unit := Registry.lobby.perform .quiet ring

def unowned : Ledger := Ledger.book (fun _ => {}) .quiet .lobby ring

/-- A new scope, while somebody else has a reference on the call. -/
def reception : Desk Unit where
  scope := {}
  registry := ringing.perform .quiet (.lookup ⟨0, 0⟩)
  others := unowned.book .quiet ringing (.lookup ⟨0, 0⟩)

theorem reception_balanced : reception.Balanced fun _ _ => {} := by
  have hringing := Registry.lobby_reachable.step Environment.quiet_lawful ring
  have hreachable := hringing.step Environment.quiet_lawful (.lookup ⟨0, 0⟩)
  have hrun : Ledger.Run .quiet unowned ringing :=
    .step (.start Registry.create_lobby) trivial
      ⟨.of_dialogs hringing.wf (by decide +kernel), nofun⟩
  have hown : unowned.Owns (.lookup ⟨0, 0⟩) := trivial
  have hrun' : Ledger.Run .quiet reception.others reception.registry :=
    hrun.step hown ⟨.of_dialogs hreachable.wf (by decide +kernel), nofun⟩
  exact hrun'.balanced Environment.quietCalm

/-- A tag that is set before any request, and one that is set for the request of the call. -/
def greeting : List ScopeCall :=
  [.setProfile "user" (some "bob"), .begin 1, .setProfile "user" (some "alice"), .begin 1,
    .setDialog 1 ⟨0, 0⟩, .begin 2, .reset]

theorem Works.keeps_to_request_greeting :
    ∃ k noticed, Works (fun _ _ => {}) .quiet reception greeting noticed k ∧
      noticed.filterMap Deed.tagged? = [⟨⟨0, 0⟩, "user", some "alice"⟩] ∧
      noticed.filterMap Deed.returned? = [⟨0, 0⟩] ∧ k.scope.current = none ∧
      k.registry.memberships = {⟨⟨0, 0⟩, "user", some "alice"⟩} := by
  have hown : 1 ≤ (reception.others ⟨0, 0⟩).refs := by decide +kernel
  have h : Works (fun _ _ => {}) .quiet reception greeting _ _ :=
    .call trivial (.call trivial (.call trivial (.call trivial (.call hown (.call trivial
      (.call trivial (.nil _)))))))
  have hkeeps := h.keeps_to_request Environment.quietCalm.fair Environment.quiet_lawful rfl
    reception_balanced
  refine ⟨_, _, h, hkeeps.tagged.trans ?_, hkeeps.returned.trans ?_, ?_, ?_⟩
  · decide +kernel
  · decide
  · exact congrArg InHand.current hkeeps.inHand
  · decide +kernel

end Desk

end SipDialogs
