-- SUMMARY: How the buckets of a table are shared out among its locks, and why no access misses.
import SipDialogs.Proofs.Tagging
import Mathlib.Algebra.BigOperators.Fin
import Mathlib.Algebra.BigOperators.Group.Finset.Sigma
import Mathlib.Algebra.BigOperators.Intervals
import Mathlib.Data.Set.Function

/-! # Striping

Lock and place of a bucket are the remainder and the quotient of one division, so no two buckets
have both in common. The lengths of the stripes come from another division, which rounds up. The two
fit: the places in the stripes are those of the buckets, one for each. Tables are built in this
shape and never leave it, and whatever picks a bucket, of a table or of a profile, picks one that is
there. -/

namespace SipDialogs

/-! ## Locks and places -/

namespace LockSet

variable {size count : Nat}

/-- A place lies in the stripe of a lock if there is a bucket for it. -/
theorem lt_stripeLength_iff {lock slot : Nat} (hcount : 0 < count) :
    slot < stripeLength size lock count ↔ slot * count + lock < size := by
  unfold stripeLength
  split
  next hbeyond => omega
  next hwithin =>
    rw [← Nat.succ_le_iff, Nat.le_div_iff_mul_le hcount, Nat.succ_mul]
    omega

/-- The stripe of a bucket has a place for it. -/
theorem div_lt_stripeLength {bucket : Nat} (hbucket : bucket < size) (hcount : 0 < count) :
    bucket / count < stripeLength size (bucket % count) count := by
  apply (lt_stripeLength_iff hcount).2
  rwa [Nat.div_add_mod']

theorem bucket_mod {lock : Nat} (hlock : lock < count) (slot : Nat) :
    (slot * count + lock) % count = lock := by
  rw [Nat.mul_add_mod', Nat.mod_eq_of_lt hlock]

theorem bucket_div {lock : Nat} (hlock : lock < count) (slot : Nat) :
    (slot * count + lock) / count = slot := by
  have hpos : 0 < count := Nat.zero_lt_of_lt hlock
  rw [Nat.add_comm, Nat.add_mul_div_right _ _ hpos, Nat.div_eq_of_lt hlock, Nat.zero_add]

/-- To go through the places lock by lock is to go through the buckets. -/
theorem sum_slots (hcount : 0 < count) (f : Nat → Nat → Nat) :
    ∑ lock ∈ Finset.range count, ∑ slot ∈ Finset.range (stripeLength size lock count), f lock slot
      = ∑ b ∈ Finset.range size, f (b % count) (b / count) := by
  rw [Finset.sum_sigma']
  refine Finset.sum_nbij' (fun p => p.2 * count + p.1) (fun b => ⟨b % count, b / count⟩)
    ?_ ?_ ?_ ?_ ?_
  · rintro ⟨lock, slot⟩ hp
    simp only [Finset.mem_sigma, Finset.mem_range] at hp ⊢
    exact (lt_stripeLength_iff hcount).1 hp.2
  · intro b hb
    simp only [Finset.mem_sigma, Finset.mem_range] at hb ⊢
    exact ⟨Nat.mod_lt _ hcount, div_lt_stripeLength hb hcount⟩
  · rintro ⟨lock, slot⟩ hp
    obtain ⟨hlock, -⟩ := by simpa using hp
    simp [bucket_mod hlock, bucket_div hlock]
  · intro b _
    simp [Nat.div_add_mod']
  · rintro ⟨lock, slot⟩ hp
    obtain ⟨hlock, -⟩ := by simpa using hp
    simp [bucket_mod hlock, bucket_div hlock]

variable {α : Type}

/-- So many buckets have one place each behind the locks of the set, and every lock has one of them
to guard. -/
structure Shares (s : LockSet α) (buckets : Nat) : Prop where
  places : Set.BijOn (fun b => (s.lockIndex b, s.slotIndex b)) {b | b < buckets}
    {p | p.1 < s.size ∧ p.2 < stripeLength buckets p.1 s.size}
  guards : ∀ lock < s.size, ∃ b < buckets, s.lockIndex b = lock
  total : ∑ lock ∈ Finset.range s.size, stripeLength buckets lock s.size = buckets

/-- Any set of locks can be shared by no fewer buckets. -/
theorem shares (s : LockSet α) {buckets : Nat} (hpos : 1 ≤ s.size) (hfew : s.size ≤ buckets) :
    s.Shares buckets where
  places := by
    refine ⟨fun b hb => ?_, fun b _ c _ heq => ?_, ?_⟩
    · exact ⟨Nat.mod_lt _ hpos, div_lt_stripeLength hb hpos⟩
    · obtain ⟨hmod, hdiv⟩ : b % s.size = c % s.size ∧ b / s.size = c / s.size :=
        Prod.mk.injEq .. ▸ heq
      calc b = b / s.size * s.size + b % s.size := (Nat.div_add_mod' ..).symm
        _ = c / s.size * s.size + c % s.size := by rw [hmod, hdiv]
        _ = c := Nat.div_add_mod' ..
    · rintro ⟨lock, slot⟩ ⟨hlock, hslot⟩
      refine ⟨slot * s.size + lock, (lt_stripeLength_iff hpos).1 hslot, ?_⟩
      exact Prod.ext (bucket_mod hlock slot) (bucket_div hlock slot)
  guards lock hlock := ⟨lock, Nat.lt_of_lt_of_le hlock hfew, Nat.mod_eq_of_lt hlock⟩
  total := by
    have hsum : ∑ lock ∈ Finset.range s.size,
        ∑ _slot ∈ Finset.range (stripeLength buckets lock s.size), 1
        = ∑ _b ∈ Finset.range buckets, 1 := sum_slots hpos fun _ _ => 1
    simpa using hsum

/-! ### Building a set -/

theorem lockCount_eq_min (buckets : Nat) : lockCount buckets = min buckets 2048 := by
  unfold lockCount maxLocks
  split <;> omega

theorem lockCount_pos {buckets : Nat} (h : 0 < buckets) : 0 < lockCount buckets := by
  rw [lockCount_eq_min]
  omega

theorem fill_ok (f : Nat → Nat → α) (count left index : Nat) (done : Array α) :
    fill (fun i n => .ok (f i n)) count left index done
      = .ok (done ++ ((List.range' index left).map (f · count)).toArray) := by
  induction left generalizing index done with
  | zero => simp [fill]
  | succ left ih => simp [fill, ih, List.range'_succ]

theorem size_fill {init : Nat → Nat → Except Fault α} {left index : Nat} {done filled : Array α}
    (h : fill init count left index done = .ok filled) : filled.size = done.size + left := by
  induction left generalizing index done with
  | zero =>
    cases h
    rfl
  | succ left ih =>
    unfold fill at h
    split at h
    · cases h
    · rw [ih h, Array.size_push]
      omega

theorem size_build {buckets : Nat} {init : Nat → Nat → Except Fault α} {s : LockSet α}
    (h : build buckets init = .ok s) : s.size = min buckets 2048 := by
  unfold build at h
  split at h
  · cases h
  · generalize hfill : fill _ _ _ _ _ = filled at h
    cases filled with
    | error e => cases h
    | ok stripes =>
      cases h
      rw [← lockCount_eq_min, size, size_fill hfill]
      exact Nat.zero_add _

/-- Where every stripe can be had, so can the set. -/
theorem build_ok {buckets : Nat} (h : 0 < buckets) (f : Nat → Nat → α) :
    build buckets (fun i n => .ok (f i n))
      = .ok ⟨((List.range (lockCount buckets)).map (f · (lockCount buckets))).toArray⟩ := by
  unfold build
  rw [if_neg (Nat.ne_of_gt h), fill_ok, Array.empty_append, List.range_eq_range']
  rfl

end LockSet

/-! ## The shape of tables -/

namespace Hash

theorem texts_lt {size : UInt32} (h : 0 < size) (first : String) (second : Option String) :
    texts first second size < size := by
  unfold texts
  dsimp only
  split
  · split <;> exact UInt32.mod_lt _ h
  · exact UInt32.mod_lt _ h

theorem words_lt {size : UInt32} (h : 0 < size) (first second : UInt32) :
    words first second size < size :=
  UInt32.mod_lt _ h

end Hash

namespace Table

variable {t t' : Table}

/-- A table has at least one bucket, and its stripes are as long as its buckets ask for. -/
structure Striped (t : Table) : Prop where
  positive : 0 < t.size
  shape : t.stripes.shape = (List.range (LockSet.lockCount t.size.toNat)).map fun lock =>
    LockSet.stripeLength t.size.toNat lock (LockSet.lockCount t.size.toNat)

/-- A table of any number of buckets but none can be had. -/
theorem create_striped {size : UInt32} (h : 0 < size) (timeout : UInt32) :
    ∃ t, create size timeout = .ok t ∧ t.size = size ∧ t.Striped := by
  have hpos : 0 < size.toNat := UInt32.lt_iff_toNat_lt.1 h
  unfold create
  rw [if_neg (UInt32.pos_iff_ne_zero.1 h), LockSet.build_ok hpos]
  refine ⟨_, rfl, rfl, h, ?_⟩
  simp [LockSet.shape]

theorem create_eq_ok {size timeout : UInt32} (h : create size timeout = .ok t) :
    t.size = size ∧ t.Striped := by
  have hpos : 0 < size := by
    apply UInt32.pos_iff_ne_zero.2
    rintro rfl
    cases h
  obtain ⟨t', ht', hsize, hstriped⟩ := create_striped hpos timeout
  cases h.symm.trans ht'
  exact ⟨hsize, hstriped⟩

theorem size_create {size timeout : UInt32} (h : create size timeout = .ok t) :
    t.size = size ∧ 0 < size := by
  obtain ⟨hsize, hstriped⟩ := create_eq_ok h
  exact ⟨hsize, hsize ▸ hstriped.positive⟩

theorem lt_size_of_bucket? {n : UInt32} (h : (t.bucket? n).isSome) : n < t.size := by
  unfold bucket? at h
  split at h
  next hn => exact hn
  next => cases h

namespace Striped

/-- The shape is all that matters. -/
theorem of_shape (h : t.Striped) (hshape : t'.shape = t.shape) : t'.Striped := by
  obtain ⟨hsize, hstripes⟩ : t'.size = t.size ∧ t'.stripes.shape = t.stripes.shape :=
    Prod.mk.injEq .. ▸ hshape
  refine ⟨hsize ▸ h.positive, ?_⟩
  rw [hsize, hstripes]
  exact h.shape

theorem size_eq (h : t.Striped) : t.stripes.size = LockSet.lockCount t.size.toNat := by
  have hlength := congrArg List.length h.shape
  simpa [LockSet.shape, LockSet.size] using hlength

theorem size_pos (h : t.Striped) : 0 < t.stripes.size := by
  rw [h.size_eq]
  exact LockSet.lockCount_pos (UInt32.lt_iff_toNat_lt.1 h.positive)

theorem shares (h : t.Striped) : t.stripes.Shares t.size.toNat := by
  apply t.stripes.shares h.size_pos
  rw [h.size_eq, LockSet.lockCount_eq_min]
  exact Nat.min_le_left ..

/-- Each lock has its stripe, as long as it should be. -/
theorem stripe_eq (h : t.Striped) {lock : Nat} (hlock : lock < t.stripes.size) :
    ∃ stripe, t.stripes.stripes[lock]? = some stripe ∧
      stripe.size = LockSet.stripeLength t.size.toNat lock t.stripes.size := by
  have hshape : t.stripes.shape[lock]?
      = some (LockSet.stripeLength t.size.toNat lock t.stripes.size) := by
    rw [h.shape, ← h.size_eq]
    simp [hlock]
  rw [LockSet.shape, List.getElem?_map, Array.getElem?_toList] at hshape
  exact Option.map_eq_some_iff.1 hshape

/-- Behind its lock, every bucket has its place. -/
theorem slot_lt (h : t.Striped) {n : Nat} (hn : n < t.size.toNat) :
    ∃ stripe, t.stripes.stripe? n = some stripe ∧ t.stripes.slotIndex n < stripe.size := by
  obtain ⟨stripe, hstripe, hsize⟩ := h.stripe_eq (Nat.mod_lt n h.size_pos)
  refine ⟨stripe, hstripe, ?_⟩
  rw [hsize]
  exact LockSet.div_lt_stripeLength hn h.size_pos

theorem isSome_bucket? (h : t.Striped) {n : UInt32} (hn : n < t.size) : (t.bucket? n).isSome := by
  obtain ⟨stripe, hstripe, hslot⟩ := h.slot_lt (UInt32.lt_iff_toNat_lt.1 hn)
  simp [bucket?, hn, hstripe, hslot]

end Striped

theorem isSome_bucket?_create {size timeout : UInt32} (h : create size timeout = .ok t)
    {n : UInt32} (hn : n < t.size) : (t.bucket? n).isSome :=
  (create_eq_ok h).2.isSome_bucket? hn

/-! ### Counting dialogs -/

/-- The number of dialogs at a place; none where there is no such place. -/
def dialogsInPlace (t : Table) (lock slot : Nat) : Nat :=
  ((t.stripes.stripes[lock]?).bind fun stripe => stripe[slot]?).elim 0 (·.dialogs.length)

/-- The sum of a list, position by position. -/
theorem foldr_add_eq_sum {α : Type} (f : α → Nat) (as : List α) :
    as.foldr (fun a n => f a + n) 0 = ∑ i ∈ Finset.range as.length, (as[i]?).elim 0 f := by
  calc as.foldr (fun a n => f a + n) 0 = (as.map f).sum := by
        rw [List.sum, List.foldr_map]
    _ = ∑ i : Fin as.length, f as[i] := (Fin.sum_univ_fun_getElem as f).symm
    _ = ∑ i ∈ Finset.range as.length, (as[i]?).elim 0 f := by
        rw [Finset.sum_range]
        simp

/-- The count of `len` goes lock by lock. -/
theorem Striped.len_eq_sum (h : t.Striped) :
    t.len = ∑ lock ∈ Finset.range t.stripes.size,
      ∑ slot ∈ Finset.range (LockSet.stripeLength t.size.toNat lock t.stripes.size),
        t.dialogsInPlace lock slot := by
  unfold len
  rw [foldr_add_eq_sum fun stripe : Array Bucket =>
    stripe.toList.foldr (fun b n => b.dialogs.length + n) 0]
  apply Finset.sum_congr rfl
  intro lock hlock
  obtain ⟨stripe, hstripe, hsize⟩ := h.stripe_eq (Finset.mem_range.1 hlock)
  rw [Array.getElem?_toList, hstripe, ← hsize, ← Array.length_toList, Option.elim_some,
    foldr_add_eq_sum]
  simp [dialogsInPlace, hstripe]

/-- The dialogs themselves are listed bucket by bucket. -/
theorem length_dialogs_eq_sum (t : Table) :
    t.dialogs.length = ∑ n ∈ Finset.range t.size.toNat,
      t.dialogsInPlace (n % t.stripes.size) (n / t.stripes.size) := by
  have hrange : ∀ f : Nat → Nat,
      ((List.range t.size.toNat).map f).sum = ∑ n ∈ Finset.range t.size.toNat, f n :=
    fun _ => rfl
  unfold dialogs buckets
  rw [List.filterMap_eq_flatMap_toList, List.flatMap_assoc, List.length_flatMap, hrange]
  apply Finset.sum_congr rfl
  intro n hn
  have hword : (UInt32.ofNat n).toNat = n :=
    UInt32.toNat_ofNat_of_lt' (Nat.lt_trans (Finset.mem_range.1 hn) t.size.toNat_lt)
  have hlt : UInt32.ofNat n < t.size := by
    apply UInt32.lt_iff_toNat_lt.2
    rw [hword]
    exact Finset.mem_range.1 hn
  unfold bucket? dialogsInPlace LockSet.stripe? LockSet.lockIndex LockSet.slotIndex
  rw [if_pos hlt, hword]
  generalize (t.stripes.stripes[n % t.stripes.size]?).bind _ = found
  cases found <;> simp

theorem Striped.len_eq (h : t.Striped) : t.len = t.dialogs.length := by
  rw [h.len_eq_sum, length_dialogs_eq_sum]
  exact LockSet.sum_slots h.size_pos t.dialogsInPlace

end Table

/-! ## Reachable registries -/

theorem Edit.shape {tagging : Bool} {b b' : Books} (h : Edit tagging b b') :
    b'.table.shape = b.table.shape := by
  cases h with
  | count t f => exact t.shape_count f
  | link hlinks => exact hlinks.shape
  | revise | attach | detach => exact Table.shape_put ..
  | unlink => exact Table.shape_erase ..
  | purge | takeBack => rfl

/-- No edit links a dialog to a profile that there is not. -/
theorem Edit.named {tagging : Bool} {b b' : Books} (h : Edit tagging b b') (hwf : b.table.Wf)
    (hnamed : ∀ x ∈ b.held, (b.profiles.hasValue? x.2.profile).isSome) :
    ∀ x ∈ b'.held, (b'.profiles.hasValue? x.2.profile).isSome := by
  intro x hx
  rw [h.hasValue?]
  unfold Books.held at hx hnamed
  cases h with
  | count | takeBack => exact hnamed x hx
  | revise hfind he ps limbo =>
    rw [hwf.held_revise hfind he] at hx
    exact hnamed x hx
  | unlink hfind ps limbo =>
    rw [← Multiset.coe_add, ← Multiset.add_assoc, hwf.held_erase hfind] at hx
    exact hnamed x hx
  | purge t ps key links limbo =>
    rcases Multiset.mem_add.1 hx with hheld | hlimbo
    · exact hnamed x (Multiset.mem_add.2 (.inl hheld))
    · exact hnamed x (Multiset.mem_add.2 (.inr (List.mem_append_right _ hlimbo)))
  | link hlinks hd ps limbo =>
    rw [hwf.held_link hlinks hd] at hx
    exact hnamed x hx
  | attach hfind hget hlink limbo =>
    rw [hwf.held_attach hfind, Multiset.cons_add] at hx
    rcases Multiset.mem_cons.1 hx with rfl | hx
    · obtain ⟨hsearch, -, rfl⟩ := Directory.get_eq_ok hget
      obtain ⟨-, rfl, -⟩ := Profile.newLink_eq_ok hlink
      simp [Directory.hasValue?, hsearch]
    · exact hnamed x hx
  | detach hfind hl ps limbo =>
    refine hnamed x ?_
    rw [hwf.held_detach hfind hl, Multiset.cons_add]
    exact Multiset.mem_cons_of_mem hx

/-- Books that no access to a table or a profile goes astray in. -/
structure Books.Confined (b : Books) : Prop where
  locks : b.table.stripes.size = min b.table.size.toNat 2048
  shares : b.table.stripes.Shares b.table.size.toNat
  hashed : ∀ first second, Hash.texts first second b.table.size < b.table.size
  bucket : ∀ n, (b.table.bucket? n).isSome ↔ n < b.table.size
  slot : ∀ n < b.table.size, ∃ stripe, b.table.stripes.stripe? n.toNat = some stripe ∧
    b.table.stripes.slotIndex n.toNat < stripe.size
  link : ∀ x ∈ b.held, ∃ p, b.profiles.search? x.2.profile = some p ∧
    x.2.bucket.toNat < p.buckets.size
  value : ∀ p ∈ b.profiles.profiles, ∀ v, (Hash.texts v none p.size).toNat < p.buckets.size
  member : ∀ p ∈ b.profiles.profiles, ∀ key : Key,
    (Hash.words key.bucket key.localId p.size).toNat < p.buckets.size
  len : b.table.len = b.table.dialogs.length

/-- What holds of the books of a registry from the start. -/
structure Books.Sound (b : Books) : Prop where
  wf : b.table.Wf
  striped : b.table.Striped
  files : b.profiles.Files b.held
  named : ∀ x ∈ b.held, (b.profiles.hasValue? x.2.profile).isSome

namespace Books.Sound

variable {b b' : Books}

theorem edits (h : b.Sound) {tagging : Bool} (hedits : Edits tagging b b') : b'.Sound := by
  induction hedits with
  | refl => exact h
  | tail _ hedit ih =>
    exact ⟨hedit.wf ih.wf, ih.striped.of_shape hedit.shape, hedit.files ih.wf ih.files,
      hedit.named ih.wf ih.named⟩

theorem confined (h : b.Sound) : b.Confined where
  locks := by rw [h.striped.size_eq, LockSet.lockCount_eq_min]
  shares := h.striped.shares
  hashed := Hash.texts_lt h.striped.positive
  bucket n := ⟨Table.lt_size_of_bucket?, h.striped.isSome_bucket?⟩
  slot n hn := h.striped.slot_lt (UInt32.lt_iff_toNat_lt.1 hn)
  link := by
    rintro ⟨key, l⟩ hl
    obtain ⟨p, hp⟩ : ∃ p, b.profiles.search? l.profile = some p := by
      apply Option.isSome_iff_exists.1
      simpa [Directory.hasValue?] using h.named _ hl
    have hget : b.profiles.get l.profile = .ok p := by simp [Directory.get, hp]
    obtain ⟨-, hmem, hname⟩ := Directory.get_eq_ok hget
    have hkept := h.files.keeps p hmem
    have hmade := hkept.made (key, l) (Multiset.mem_filter.2 ⟨hl, hname.symm⟩)
    refine ⟨p, hp, ?_⟩
    rw [hmade.bucket, hkept.size]
    exact Profile.bucketFor_lt hkept.positive _ _
  value p hp v := by
    have hkept := h.files.keeps p hp
    rw [hkept.size]
    exact UInt32.lt_iff_toNat_lt.1 (Hash.texts_lt (UInt32.lt_iff_toNat_lt.2 hkept.positive) v none)
  member p hp key := by
    have hkept := h.files.keeps p hp
    rw [hkept.size]
    exact UInt32.lt_iff_toNat_lt.1 (Hash.words_lt (UInt32.lt_iff_toNat_lt.2 hkept.positive) _ _)
  len := h.striped.len_eq

end Books.Sound

namespace Registry

theorem Reachable.sound {r : Registry ε} (h : r.Reachable) : (r.books []).Sound := by
  obtain ⟨r₀, ⟨config, clock, hasTimer, e, hcreate⟩, hwf, hedits⟩ := h.edits
  obtain ⟨htable, hprofiles, -⟩ := create_eq_ok hcreate
  have hnone : Books.held (r₀.books []) = 0 := by
    rw [Books.held, books, Table.held_create htable]
    rfl
  have hstart : (r₀.books []).Sound := by
    refine ⟨hwf, (Table.create_eq_ok htable).2, ?_, ?_⟩
    · rw [hnone]
      exact Directory.ofDefinitions_files hprofiles
    · simp [hnone]
  exact hstart.edits hedits

/-- The locks of a set share its buckets out with none left over and none given twice, and so no
registry that is reachable, nor any that an operation passes through on its way, reaches for a
bucket, a place or a member that is not there. -/
theorem Reachable.striping_confined {r : Registry ε} (h : r.Reachable) :
    (∀ (α : Type) buckets (init : Nat → Nat → Except Fault α), 1 ≤ buckets →
      (∀ index count, ∃ a, init index count = .ok a) →
      ∃ s, LockSet.build buckets init = .ok s ∧ s.size = min buckets 2048) ∧
    (∀ size timeout, 1 ≤ size → ∃ t, Table.create size timeout = .ok t ∧ t.size = size ∧
      t.stripes.size = min size.toNat 2048) ∧
    (∀ (α : Type) (s : LockSet α) buckets, 1 ≤ s.size → s.size ≤ buckets → s.Shares buckets) ∧
    (r.books []).Confined ∧ ∀ b, Edits true (r.books []) b → b.Confined := by
  refine ⟨fun α buckets init hpos hinit => ?_, fun size timeout hpos => ?_,
    fun α s buckets hpos hfew => s.shares hpos hfew, h.sound.confined,
    fun b hedits => (h.sound.edits hedits).confined⟩
  · choose f hf using hinit
    obtain rfl : init = fun index count => .ok (f index count) := funext₂ hf
    exact ⟨_, LockSet.build_ok hpos f, LockSet.size_build (LockSet.build_ok hpos f)⟩
  · obtain ⟨t, hcreate, hsize, hstriped⟩ := Table.create_striped
      (UInt32.lt_of_lt_of_le (by decide) hpos) timeout
    refine ⟨t, hcreate, hsize, ?_⟩
    rw [hstriped.size_eq, LockSet.lockCount_eq_min, hsize]

/-- One bucket behind one lock, with a dialog whose links lead to a profile of one bucket. -/
theorem Reachable.striping_confined_tagged :
    tagged.table.stripes.size = 1 ∧ tagged.table.len = 1 ∧
      ∀ x ∈ (tagged.books []).held, ∃ p, tagged.profiles.search? x.2.profile = some p ∧
        x.2.bucket.toNat < p.buckets.size := by
  obtain ⟨-, -, -, hconfined, -⟩ := Reachable.striping_confined tagged_reachable
  have hsize : tagged.table.size = 1 := by decide +kernel
  have hdialogs : tagged.table.dialogs.length = 1 := by decide +kernel
  refine ⟨?_, hconfined.len.trans hdialogs, hconfined.link⟩
  have hlocks : tagged.table.stripes.size = min tagged.table.size.toNat 2048 := hconfined.locks
  rw [hlocks, hsize]
  rfl

end Registry

end SipDialogs
