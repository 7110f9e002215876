import Smw.Foundation.Text
import Smw.Foundation.OrderedMap
import Mathlib.Data.Set.Basic

/-! The id of a host, which is put together from the IPv4 addresses of its interfaces. -/
namespace Smw.HostId
open Foundation Foundation.Text

/-- An address of IPv4, its bytes in network order. -/
structure InAddr where
  first : UInt8
  second : UInt8
  third : UInt8
  fourth : UInt8
deriving DecidableEq,Repr

def inetNtoa (address : InAddr) : String :=
  address.first.toNat.repr ++ "." ++ address.second.toNat.repr ++ "." ++ address.third.toNat.repr ++ "." ++
    address.fourth.toNat.repr

/-- An entry that the ioctl returns. Its flags share their bytes with the address family. -/
structure Ifreq where
  ifrFlags : Int16
  sinAddr : InAddr
deriving DecidableEq,Repr

def afInet : Int16 := 2

/-- The loop over the entries from the pointer on, with the rounds that are left. -/
def collectIps : Nat → List Ifreq → OrderedSet String → OrderedSet String
  | 0, _, sortedIps => sortedIps
  | _ + 1, [], sortedIps => sortedIps
  | i + 1, ifReq :: rest, sortedIps =>
    -- The pointer advances with an entry of IPv4 only.
    if ifReq.ifrFlags = afInet then collectIps i rest (sortedIps.emplace (inetNtoa ifReq.sinAddr))
    else collectIps i (ifReq :: rest) sortedIps

def getMangledIp (entries : List Ifreq) : String :=
  (collectIps entries.length entries OrderedMap.empty).keys.foldl (fun result ip => result ++ (ip ++ "/")) ""

section Property

def addresses (entries : List Ifreq) : Set InAddr :=
  {address | ∃ entry ∈ entries, entry.ifrFlags = afInet ∧ entry.sinAddr = address}

/-- The id is made of the texts of all addresses, in increasing order. -/
def ListsAddresses (entries : List Ifreq) : Prop :=
  ∃ ips : List String, getMangledIp entries = terminated '/' ips ∧ ips.Pairwise (fun a b => a < b) ∧
    ∀ ip, ip ∈ ips ↔ ∃ address ∈ addresses entries, ip = inetNtoa address

def Identifies (first second : List Ifreq) : Prop :=
  ListsAddresses first ∧ ListsAddresses second ∧
    (getMangledIp first = getMangledIp second ↔ addresses first = addresses second)

/-- The entries before the first one of another family. -/
def leading (entries : List Ifreq) : List Ifreq := entries.takeWhile (fun entry => entry.ifrFlags = afInet)

/-- Every address occurs before the first entry of another family. -/
def Leads (entries : List Ifreq) : Prop := ∀ address ∈ addresses entries, address ∈ addresses (leading entries)

end Property

section Addresses

theorem inetNtoa_preceded (address : InAddr) : String.singleton '.' ++ inetNtoa address =
    preceded '.' [address.first.toNat.repr,address.second.toNat.repr,address.third.toNat.repr,
      address.fourth.toNat.repr] := by
  apply String.toList_inj.mp
  simp [inetNtoa,preceded]

theorem inetNtoa_inj (first second : InAddr) : inetNtoa first = inetNtoa second ↔ first = second := by
  constructor
  · intro same
    have fields := congrArg (fun text => String.singleton '.' ++ text) same
    simp only [inetNtoa_preceded] at fields
    have free (address : InAddr) (field : String) (member : field ∈ [address.first.toNat.repr,
        address.second.toNat.repr,address.third.toNat.repr,address.fourth.toNat.repr]) : Free '.' field := by
      simp only [List.mem_cons,List.not_mem_nil,or_false] at member
      rcases member with rfl | rfl | rfl | rfl <;> exact decimal_free _ '.' (by decide)
    have equal := (preceded_inj '.' _ _ (free first) (free second)).mp fields
    simp only [List.cons.injEq,decimal_inj,UInt8.toNat_inj,and_true] at equal
    obtain ⟨one,two,three,four⟩ := equal
    cases first
    cases second
    simp_all
  · intro same
    rw [same]

theorem inetNtoa_free (address : InAddr) : Free '/' (inetNtoa address) := by
  have digits (number : Nat) := decimal_free number '/' (by decide)
  have dot : Free '/' "." := by simp [Free]
  simp [inetNtoa,free_append,digits,dot]

end Addresses

section Loop

theorem addresses_cons (entry : Ifreq) (entries : List Ifreq) (address : InAddr) :
    address ∈ addresses (entry :: entries) ↔
      (entry.ifrFlags = afInet ∧ entry.sinAddr = address) ∨ address ∈ addresses entries := by
  simp [addresses]

theorem leading_cons (entry : Ifreq) (entries : List Ifreq) : leading (entry :: entries) =
    if entry.ifrFlags = afInet then entry :: leading entries else [] := by
  by_cases inet : entry.ifrFlags = afInet
  · simp [leading,inet]
  · simp [leading,inet]

/-- An entry of another family holds the pointer back for all the rounds that are left. -/
theorem collectIps_held (rounds : Nat) (entry : Ifreq) (entries : List Ifreq) (sortedIps : OrderedSet String)
    (other : entry.ifrFlags ≠ afInet) : collectIps rounds (entry :: entries) sortedIps = sortedIps := by
  induction rounds with
  | zero => rfl
  | succ rounds ih => rw [collectIps,if_neg other,ih]

theorem mem_collectIps (entries : List Ifreq) (sortedIps : OrderedSet String) (ip : String) :
    ip ∈ collectIps entries.length entries sortedIps ↔
      ip ∈ sortedIps ∨ ∃ address ∈ addresses (leading entries), ip = inetNtoa address := by
  induction entries generalizing sortedIps with
  | nil => simp [collectIps,leading,addresses]
  | cons entry entries ih =>
    rw [leading_cons]
    by_cases inet : entry.ifrFlags = afInet
    · rw [List.length_cons,collectIps,if_pos inet,ih,if_pos inet,OrderedSet.mem_emplace]
      simp only [addresses_cons,inet,true_and]
      constructor
      · intro found
        rcases found with (same | before) | ⟨address,later,same⟩
        · exact .inr ⟨entry.sinAddr,.inl rfl,same⟩
        · exact .inl before
        · exact .inr ⟨address,.inr later,same⟩
      · intro found
        rcases found with before | ⟨address,rfl | later,same⟩
        · exact .inl (.inr before)
        · exact .inl (.inl same)
        · exact .inr ⟨address,later,same⟩
    · rw [collectIps_held _ entry entries sortedIps inet,if_neg inet]
      simp [addresses]

theorem getMangledIp_eq (entries : List Ifreq) : getMangledIp entries =
    terminated '/' (collectIps entries.length entries OrderedMap.empty).keys := by
  unfold getMangledIp terminated String.join
  rw [List.foldl_map]
  rfl

end Loop

section Ids

theorem mem_sortedIps (entries : List Ifreq) (ip : String) :
    ip ∈ (collectIps entries.length entries OrderedMap.empty).keys ↔
      ∃ address ∈ addresses (leading entries), ip = inetNtoa address := by
  rw [OrderedSet.mem_keys,mem_collectIps]
  simp

theorem listed_free (ips : List String) (listed : Set InAddr)
    (exactly : ∀ ip, ip ∈ ips ↔ ∃ address ∈ listed, ip = inetNtoa address) : ∀ ip ∈ ips, Free '/' ip := by
  intro ip member
  obtain ⟨address,_,rfl⟩ := (exactly ip).mp member
  exact inetNtoa_free address

theorem leading_subset (entries : List Ifreq) (address : InAddr)
    (member : address ∈ addresses (leading entries)) : address ∈ addresses entries := by
  obtain ⟨entry,inside,matching⟩ := member
  exact ⟨entry,List.takeWhile_subset _ inside,matching⟩

theorem leads_iff (entries : List Ifreq) : Leads entries ↔ addresses (leading entries) = addresses entries := by
  constructor
  · intro leads
    ext address
    exact ⟨leading_subset entries address,leads address⟩
  · intro same address member
    rw [same]
    exact member

theorem listsAddresses_iff (entries : List Ifreq) : ListsAddresses entries ↔ Leads entries := by
  constructor
  · intro lists address member
    obtain ⟨ips,id,_,exactly⟩ := lists
    have listed : inetNtoa address ∈ ips := (exactly _).mpr ⟨address,member,rfl⟩
    rw [getMangledIp_eq,terminated_inj '/' _ _ (listed_free _ _ (mem_sortedIps entries))
      (listed_free _ _ exactly)] at id
    rw [← id] at listed
    obtain ⟨other,leads,same⟩ := (mem_sortedIps entries _).mp listed
    rw [(inetNtoa_inj _ _).mp same]
    exact leads
  · intro leads
    refine ⟨_,getMangledIp_eq entries,OrderedMap.keys_ordered _,?_⟩
    rw [← (leads_iff entries).mp leads]
    exact mem_sortedIps entries

theorem getMangledIp_inj (first second : List Ifreq) : getMangledIp first = getMangledIp second ↔
    addresses (leading first) = addresses (leading second) := by
  rw [getMangledIp_eq,getMangledIp_eq,terminated_inj '/' _ _ (listed_free _ _ (mem_sortedIps first))
    (listed_free _ _ (mem_sortedIps second))]
  constructor
  · intro same
    ext address
    have left := mem_sortedIps first (inetNtoa address)
    have right := mem_sortedIps second (inetNtoa address)
    rw [same] at left
    simpa [inetNtoa_inj] using left.symm.trans right
  · intro same
    have sets := OrderedSet.ext_mem (collectIps first.length first OrderedMap.empty)
      (collectIps second.length second OrderedMap.empty) (fun ip => by
        rw [← OrderedSet.mem_keys,← OrderedSet.mem_keys,mem_sortedIps,mem_sortedIps,same])
    rw [sets]

end Ids

theorem identifies_iff (first second : List Ifreq) : Identifies first second ↔ Leads first ∧ Leads second := by
  unfold Identifies
  rw [listsAddresses_iff,listsAddresses_iff]
  constructor
  · intro identifies
    exact ⟨identifies.1,identifies.2.1⟩
  · intro leads
    refine ⟨leads.1,leads.2,?_⟩
    rw [getMangledIp_inj,(leads_iff first).mp leads.1,(leads_iff second).mp leads.2]

/-- An interface without an IPv4 address stands between two that have one. -/
def interrupted : List Ifreq := [⟨2,⟨127,0,0,1⟩⟩,⟨10,⟨0,0,0,0⟩⟩,⟨2,⟨10,0,0,1⟩⟩]

def reordered : List Ifreq := [⟨2,⟨127,0,0,1⟩⟩,⟨2,⟨10,0,0,1⟩⟩,⟨10,⟨0,0,0,0⟩⟩]

/-- The same interfaces in another order make another id. -/
theorem interrupted_not_identified : getMangledIp interrupted = "127.0.0.1/" ∧
    getMangledIp reordered = "10.0.0.1/127.0.0.1/" ∧ ¬ Identifies interrupted reordered := by
  have different : getMangledIp interrupted ≠ getMangledIp reordered := by decide
  refine ⟨by decide,by decide,?_⟩
  intro identifies
  apply different
  apply identifies.2.2.mpr
  ext address
  simp [addresses,interrupted,reordered,afInet]

end Smw.HostId
