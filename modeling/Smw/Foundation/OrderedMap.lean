import Mathlib.Data.List.Sort
import Mathlib.Order.RelClasses

/-! Associative containers kept in strictly increasing key order, as an ordered
tree map iterates them. The order is part of the type, so two containers with
the same lookups are equal and iteration needs no separate sortedness proof. -/
namespace Foundation

section Comparator
variable {A B T : Type} [LT A] [LT B] [DecidableEq A]
variable [DecidableRel (fun a b : A => a < b)] [DecidableRel (fun a b : B => a < b)]

/-- The comparator of a two-field key that looks at the second field only where
the first fields are equal. -/
def lexLess (first first' : A) (second second' : B) : Bool :=
  if first < first' then true else first == first' && decide (second < second')

theorem lexLess_iff (first first' : A) (second second' : B) :
    lexLess first first' second second' = true ↔
      first < first' ∨ (first = first' ∧ second < second') := by
  unfold lexLess
  split
  next less => simp [less]
  next notLess => simp [notLess]

theorem lexLess_strictTotal [IsStrictTotalOrder A (fun a b => a < b)]
    [IsStrictTotalOrder B (fun a b => a < b)] (first : T → A) (second : T → B)
    (faithful : ∀ x y, first x = first y → second x = second y → x = y) :
    IsStrictTotalOrder T (fun x y => lexLess (first x) (first y) (second x) (second y) = true) where
  trichotomous := by
    intro x y notLess notGreater
    simp only [lexLess_iff,not_or,not_and] at notLess notGreater
    have same : first x = first y :=
      Std.Trichotomous.trichotomous (r := fun a b : A => a < b) _ _ notLess.1 notGreater.1
    exact faithful x y same
      (Std.Trichotomous.trichotomous (r := fun a b : B => a < b) _ _ (notLess.2 same)
        (notGreater.2 same.symm))
  irrefl := by
    intro x less
    rcases (lexLess_iff _ _ _ _).mp less with strict | strict
    · exact irrefl_of (fun a b : A => a < b) _ strict
    · exact irrefl_of (fun a b : B => a < b) _ strict.2
  trans := by
    intro x y z left right
    rw [lexLess_iff] at left right ⊢
    rcases left with left | left
    · rcases right with right | right
      · exact .inl (trans_of (fun a b : A => a < b) left right)
      · exact .inl (right.1 ▸ left)
    · rcases right with right | right
      · exact .inl (left.1 ▸ right)
      · exact .inr ⟨left.1.trans right.1,trans_of (fun a b : B => a < b) left.2 right.2⟩

end Comparator

structure OrderedMap (K V : Type) [LinearOrder K] where
  entries : List (K × V)
  ordered : entries.Pairwise (fun a b => a.1 < b.1)
deriving DecidableEq

namespace OrderedMap
variable {K V : Type} [LinearOrder K]

def empty : OrderedMap K V := ⟨[],.nil⟩

instance : Inhabited (OrderedMap K V) := ⟨empty⟩

def find (map : OrderedMap K V) (key : K) : Option V :=
  (map.entries.find? (fun entry => entry.1 = key)).map Prod.snd

def insert (map : OrderedMap K V) (key : K) (value : V) : OrderedMap K V where
  entries := map.entries.filter (fun entry => entry.1 < key) ++
    (key,value) :: map.entries.filter (fun entry => key < entry.1)
  ordered := by
    refine List.pairwise_append.mpr ⟨map.ordered.filter _,?_,?_⟩
    · refine List.pairwise_cons.mpr ⟨?_,map.ordered.filter _⟩
      intro entry member
      simpa using (List.mem_filter.mp member).2
    · intro entry member other inside
      have below : entry.1 < key := by simpa using (List.mem_filter.mp member).2
      rcases List.mem_cons.mp inside with rfl | above
      · exact below
      · exact below.trans (by simpa using (List.mem_filter.mp above).2)

def erase (map : OrderedMap K V) (key : K) : OrderedMap K V :=
  ⟨map.entries.filter (fun entry => entry.1 ≠ key),map.ordered.filter _⟩

def keys (map : OrderedMap K V) : List K := map.entries.map Prod.fst

def size (map : OrderedMap K V) : Nat := map.entries.length

/-- One pass over the entries in key order that rewrites or drops each of them. -/
def refresh (map : OrderedMap K V) (change : K → V → Option V) : OrderedMap K V where
  entries := map.entries.filterMap (fun entry => (change entry.1 entry.2).map (entry.1,·))
  ordered := by
    refine List.Pairwise.filterMap _ ?_ map.ordered
    intro first second less a ha b hb
    simp only [Option.map_eq_some_iff] at ha hb
    obtain ⟨v,_,rfl⟩ := ha
    obtain ⟨w,_,rfl⟩ := hb
    exact less

theorem keys_nodup (map : OrderedMap K V) : map.keys.Nodup :=
  List.pairwise_map.mpr (map.ordered.imp (fun less => less.ne))

theorem keys_ordered (map : OrderedMap K V) : map.keys.Pairwise (fun a b => a < b) :=
  List.pairwise_map.mpr map.ordered

theorem unique_key (map : OrderedMap K V) (key : K) (first second : V)
    (left : (key,first) ∈ map.entries) (right : (key,second) ∈ map.entries) : first = second :=
  congrArg Prod.snd (List.inj_on_of_nodup_map map.keys_nodup left right rfl)

theorem find_eq_some_iff (map : OrderedMap K V) (key : K) (value : V) :
    map.find key = some value ↔ (key,value) ∈ map.entries := by
  constructor
  · intro found
    obtain ⟨entry,located,same⟩ := Option.map_eq_some_iff.mp found
    have matched : entry.1 = key := by simpa using List.find?_some located
    have member := List.mem_of_find?_eq_some located
    rw [← matched,← same]
    exact member
  · intro member
    have present : (map.entries.find? (fun entry => entry.1 = key)).isSome :=
      List.find?_isSome.mpr ⟨(key,value),member,by simp⟩
    obtain ⟨entry,located⟩ := Option.isSome_iff_exists.mp present
    have matched : entry.1 = key := by simpa using List.find?_some located
    have inside := List.mem_of_find?_eq_some located
    have same : entry.2 = value := unique_key map key _ _ (by rw [← matched]; exact inside) member
    simp [find,located,same]

theorem entries_at (map : OrderedMap K V) (key : K) :
    (map.entries.filter (fun entry => entry.1 = key)).map Prod.snd = (map.find key).toList := by
  obtain ⟨entries,ordered⟩ := map
  induction entries with
  | nil => rfl
  | cons entry rest ih =>
    obtain ⟨above,remaining⟩ := List.pairwise_cons.mp ordered
    by_cases here : entry.1 = key
    · have no_other : rest.filter (fun other => other.1 = key) = [] := by
        apply List.filter_eq_nil_iff.mpr
        intro other member
        simpa [here] using (above other member).ne'
      simp [find,here,no_other]
    · simpa [find,here] using ih remaining

theorem find_eq_none_iff (map : OrderedMap K V) (key : K) :
    map.find key = none ↔ ∀ value, (key,value) ∉ map.entries := by
  rw [Option.eq_none_iff_forall_ne_some]
  exact forall_congr' (fun value => not_congr (find_eq_some_iff map key value))

theorem ext_find (first second : OrderedMap K V)
    (same : ∀ key, first.find key = second.find key) : first = second := by
  have members : ∀ entry, entry ∈ first.entries ↔ entry ∈ second.entries := by
    intro entry
    rw [← find_eq_some_iff first entry.1 entry.2,← find_eq_some_iff second entry.1 entry.2,same]
  have irreflexive : Std.Irrefl (fun a b : K × V => a.1 < b.1) := ⟨fun a => lt_irrefl a.1⟩
  have antisymmetric : Std.Antisymm (fun a b : K × V => a.1 < b.1) :=
    ⟨fun a b less greater => absurd (less.trans greater) (lt_irrefl _)⟩
  have equal := first.ordered.eq_of_mem_iff second.ordered members
  cases first
  cases second
  simpa using equal

theorem mem_insert (map : OrderedMap K V) (key : K) (value : V) (entry : K × V) :
    entry ∈ (map.insert key value).entries ↔
      entry = (key,value) ∨ (entry ∈ map.entries ∧ entry.1 ≠ key) := by
  simp only [insert,List.mem_append,List.mem_cons,List.mem_filter,decide_eq_true_eq]
  constructor
  · intro member
    rcases member with below | equal | above
    · exact .inr ⟨below.1,below.2.ne⟩
    · exact .inl equal
    · exact .inr ⟨above.1,above.2.ne'⟩
  · intro member
    rcases member with equal | ⟨inside,different⟩
    · exact .inr (.inl equal)
    · rcases lt_or_gt_of_ne different with below | above
      · exact .inl ⟨inside,below⟩
      · exact .inr (.inr ⟨inside,above⟩)

@[simp] theorem find_empty (key : K) : (empty : OrderedMap K V).find key = none := rfl

@[simp] theorem find_insert_self (map : OrderedMap K V) (key : K) (value : V) :
    (map.insert key value).find key = some value := by
  rw [find_eq_some_iff,mem_insert]
  exact .inl rfl

theorem find_insert_other (map : OrderedMap K V) (key other : K) (value : V)
    (different : other ≠ key) : (map.insert key value).find other = map.find other := by
  apply Option.ext
  intro found
  rw [find_eq_some_iff,find_eq_some_iff,mem_insert]
  simp [different]

theorem find_insert (map : OrderedMap K V) (key other : K) (value : V) :
    (map.insert key value).find other = if other = key then some value else map.find other := by
  split
  next same => rw [same,find_insert_self]
  next different => exact find_insert_other map key other value different

theorem find_erase (map : OrderedMap K V) (key other : K) :
    (map.erase key).find other = if other = key then none else map.find other := by
  apply Option.ext
  intro found
  split
  next same => simp [find_eq_some_iff,erase,same]
  next different => simp [find_eq_some_iff,erase,different]

theorem find_refresh (map : OrderedMap K V) (change : K → V → Option V) (key : K) :
    (map.refresh change).find key = (map.find key).bind (change key) := by
  apply Option.ext
  intro found
  simp only [find_eq_some_iff,refresh,List.mem_filterMap,Option.bind_eq_some_iff,
    Option.map_eq_some_iff,Prod.mk.injEq]
  constructor
  · intro located
    obtain ⟨entry,member,value,changed,key_eq,rfl⟩ := located
    subst key_eq
    exact ⟨entry.2,member,changed⟩
  · intro located
    obtain ⟨value,member,changed⟩ := located
    exact ⟨(key,value),member,found,changed,rfl,rfl⟩

def alter (change : K → V → Option V) (map : OrderedMap K V) (key : K) : OrderedMap K V :=
  match map.find key with
  | none => map
  | some value =>
    match change key value with
    | none => map.erase key
    | some changed => map.insert key changed

theorem find_alter (change : K → V → Option V) (map : OrderedMap K V) (key other : K) :
    (map.alter change key).find other =
      if other = key then (map.find key).bind (change key) else map.find other := by
  unfold alter
  cases found : map.find key with
  | none =>
    by_cases same : other = key
    · simp [same,found]
    · simp [same]
  | some value =>
    cases changed : change key value with
    | none => simp [find_erase,changed]
    | some next => simp [find_insert,changed]

theorem find_foldl_alter (change : K → V → Option V) (visited : List K) (distinct : visited.Nodup)
    (map : OrderedMap K V) (key : K) :
    (visited.foldl (alter change) map).find key =
      if key ∈ visited then (map.find key).bind (change key) else map.find key := by
  induction visited generalizing map with
  | nil => simp
  | cons first rest ih =>
    obtain ⟨fresh,remaining⟩ := List.nodup_cons.mp distinct
    rw [List.foldl_cons,ih remaining,find_alter]
    by_cases same : key = first
    · subst same
      simp [fresh]
    · simp [same]

/-- Visiting every key in turn, dropping entries on the way, is one refreshing pass. -/
theorem foldl_alter_keys (change : K → V → Option V) (map : OrderedMap K V) :
    map.keys.foldl (alter change) map = map.refresh change := by
  apply ext_find
  intro key
  rw [find_foldl_alter change map.keys map.keys_nodup,find_refresh]
  split
  next => rfl
  next absent =>
    have missing : map.find key = none := by
      rw [find_eq_none_iff]
      intro value member
      exact absent (List.mem_map_of_mem member)
    simp [missing]

theorem size_pos_iff (map : OrderedMap K V) : 0 < map.size ↔ ∃ key value, map.find key = some value := by
  simp only [size,find_eq_some_iff]
  constructor
  · intro positive
    obtain ⟨entry,member⟩ := List.exists_mem_of_length_pos positive
    exact ⟨entry.1,entry.2,member⟩
  · intro present
    obtain ⟨key,value,member⟩ := present
    exact List.length_pos_of_mem member

end OrderedMap

abbrev OrderedSet (K : Type) [LinearOrder K] := OrderedMap K Unit

namespace OrderedSet
variable {K : Type} [LinearOrder K]

def emplace (set : OrderedSet K) (key : K) : OrderedSet K := OrderedMap.insert set key ()

instance : Membership K (OrderedSet K) := ⟨fun set key => set.find key = some ()⟩

instance (set : OrderedSet K) (key : K) : Decidable (key ∈ set) :=
  inferInstanceAs (Decidable (set.find key = some ()))

theorem mem_def (set : OrderedSet K) (key : K) : key ∈ set ↔ set.find key = some () := Iff.rfl

@[simp] theorem not_mem_empty (key : K) : key ∉ (OrderedMap.empty : OrderedSet K) := by
  simp [mem_def]

@[simp] theorem mem_emplace (set : OrderedSet K) (key other : K) :
    other ∈ set.emplace key ↔ other = key ∨ other ∈ set := by
  simp only [mem_def,emplace,OrderedMap.find_insert]
  split
  next same => simp [same]
  next different => simp [different]

@[simp] theorem mem_erase (set : OrderedSet K) (key other : K) :
    other ∈ OrderedMap.erase set key ↔ other ≠ key ∧ other ∈ set := by
  simp only [mem_def,OrderedMap.find_erase]
  split
  next same => simp [same]
  next different => simp [different]

theorem mem_keys (set : OrderedSet K) (key : K) : key ∈ set.keys ↔ key ∈ set := by
  rw [mem_def,OrderedMap.find_eq_some_iff,OrderedMap.keys,List.mem_map]
  constructor
  · intro listed
    obtain ⟨entry,member,same⟩ := listed
    rw [← same]
    exact member
  · intro member
    exact ⟨(key,()),member,rfl⟩

theorem ext_mem (first second : OrderedSet K) (same : ∀ key, key ∈ first ↔ key ∈ second) :
    first = second := by
  apply OrderedMap.ext_find
  intro key
  apply Option.ext
  intro present
  cases present
  exact same key

theorem size_pos_iff (set : OrderedSet K) : 0 < set.size ↔ ∃ key, key ∈ set := by
  rw [OrderedMap.size_pos_iff]
  exact exists_congr (fun key => ⟨fun found => found.choose_spec,fun found => ⟨(),found⟩⟩)

end OrderedSet
end Foundation
