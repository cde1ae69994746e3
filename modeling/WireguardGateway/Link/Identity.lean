import Mathlib.Data.List.Sort
import WireguardGateway.Controller.RuntimeConfig
import WireguardGateway.Lib.Numeral

/-!
# Node-global names of a Local Gateway

`internal/link/identity.go`: a Gateway's link id and a slot number determine the interface, the
fwmark, the route table and the nft table the link programs on the node. `inheritedSlots` goes the
other way, from the node's interface names to the slots.

Results:
* **`interface_inj`**: an interface name determines the link id and the slot;
* **`routingKey_inj`**: so do the route table and the mark, for link ids and slots below 256;
* `mem_inheritedSlots`: discovery returns exactly the slots below 256 whose interface is listed;
* `interface_length`: every name fits in the kernel's 15 characters.
-/

namespace WireguardGateway.Link

open Lib
open Controller (GatewayIdentity)

def maxLinkID : Int64 := 250

def healthPortBase : Int64 := 27000

/-- `markMaskBits`: the high 16 bits of the mark, the low 16 being left to others. -/
def markMaskBits : BitVec 32 := 0xffff0000

def markMask : String := "0xffff0000"

def routeTableBase : Int64 := 100000

def slotCount : Nat := 256

/-- `NewGatewayIdentity`. -/
def newGatewayIdentity (id : Int64) : GatewayIdentity where
  id := id
  healthPort := healthPortBase + id
  nftTable := "gw" ++ toString id.toInt

structure SlotIdentity where
  interface : String
  mark : String
  markMask : String
  routeTable : Int64
  deriving DecidableEq, Repr

/-- `k` of `NewSlotIdentity`. -/
def routingKey (gatewayID slot : Int64) : Int64 := (slot <<< 8) ||| gatewayID

def interfaceName (gatewayID slot : Int64) : String :=
  if slot ≠ 0 then "wg-gw" ++ toString gatewayID.toInt ++ "-" ++ toString slot.toInt
  else "wg-gw" ++ toString gatewayID.toInt

/-- `NewSlotIdentity`. -/
def newSlotIdentity (gatewayID slot : Int64) : SlotIdentity where
  interface := interfaceName gatewayID slot
  mark := "0x" ++ hex08 (routingKey gatewayID slot <<< 16).toInt
  markMask := markMask
  routeTable := routeTableBase + routingKey gatewayID slot

/-- The map `owned` of `InheritedSlots`, in which the last slot of a name would win. -/
def ownedSlot (gatewayID : Int64) (name : String) : Option Int64 :=
  ((List.range slotCount).map Int64.ofNat).reverse.find? fun slot =>
    (newSlotIdentity gatewayID slot).interface = name

/-- `InheritedSlots`. -/
def inheritedSlots (names : List String) (gatewayID : Int64) : List Int64 :=
  (names.filterMap (ownedSlot gatewayID)).insertionSort (· ≤ ·)

/-! ## Interface names -/

/-- What follows the link id in an interface name. -/
def slotSuffix (slot : Int64) : List Char :=
  if slot ≠ 0 then '-' :: (toString slot.toInt).toList else []

theorem interfaceName_toList (g s : Int64) :
    (interfaceName g s).toList = "wg-gw".toList ++ ((toString g.toInt).toList ++ slotSuffix s) := by
  unfold interfaceName slotSuffix
  split_ifs <;> simp

theorem noDigit_slotSuffix (s : Int64) : NoDigit (slotSuffix s) := by
  unfold slotSuffix
  split_ifs
  · exact noDigit_cons (by decide)
  · exact noDigit_nil

variable {s g : Int64}

theorem slotSuffix_inj {t : Int64} (h : slotSuffix s = slotSuffix t) : s = t := by
  unfold slotSuffix at h
  split_ifs at h with hs ht ht
  · have htext := String.toList_inj.mp (List.cons.inj h).2
    exact Int64.toInt_inj.mp (decimal_inj htext)
  · rw [not_not.mp hs, not_not.mp ht]

/-- **An interface name determines the link id and the slot.** -/
theorem interface_inj {g' s' : Int64}
    (h : (newSlotIdentity g s).interface = (newSlotIdentity g' s').interface) :
    g = g' ∧ s = s' := by
  have hlist : (interfaceName g s).toList = (interfaceName g' s').toList :=
    congrArg String.toList h
  rw [interfaceName_toList, interfaceName_toList] at hlist
  obtain ⟨hg, hs⟩ := decimal_append_inj (noDigit_slotSuffix s) (noDigit_slotSuffix s')
    (List.append_cancel_left hlist)
  exact ⟨Int64.toInt_inj.mp hg, slotSuffix_inj hs⟩

/-! ## Numbers below 256 -/

/-- A link id or slot in the range the routing key packs. -/
def InByte (x : Int64) : Prop := 0 ≤ x ∧ x < 256

instance (x : Int64) : Decidable (InByte x) := inferInstanceAs (Decidable (_ ∧ _))

theorem InByte.exists_ofNat {x : Int64} (h : InByte x) : ∃ n < 256, x = Int64.ofNat n := by
  refine ⟨x.toNatClampNeg, ?_, (Int64.ofNat_toNatClampNeg x h.1).symm⟩
  have hlt := Int64.lt_iff_toInt_lt.mp h.2
  have h256 : (256 : Int64).toInt = 256 := by decide
  rw [h256] at hlt
  unfold Int64.toNatClampNeg
  omega

theorem inByte_ofNat {n : Nat} (h : n < 256) : InByte (Int64.ofNat n) := by
  have hn : (Int64.ofNat n).toInt = n := Int64.toInt_ofNat_of_lt (by omega)
  constructor
  · rw [Int64.le_iff_toInt_le, hn]
    exact Int.natCast_nonneg n
  · rw [Int64.lt_iff_toInt_lt, hn, show (256 : Int64).toInt = 256 by decide]
    omega

theorem ofNat_toBitVec_toNat {n : Nat} (h : n < 2 ^ 64) : (Int64.ofNat n).toBitVec.toNat = n := by
  rw [Int64.toBitVec_ofNat', BitVec.toNat_ofNat, Nat.mod_eq_of_lt h]

theorem shiftLeft_ofNat {n k : Nat} (h : n * 2 ^ k < 2 ^ 64) (hk : k < 64) :
    Int64.ofNat n <<< Int64.ofNat k = Int64.ofNat (n * 2 ^ k) := by
  apply Int64.toBitVec_inj.mp
  apply BitVec.eq_of_toNat_eq
  have hn : n < 2 ^ 64 := lt_of_le_of_lt (Nat.le_mul_of_pos_right n (by positivity)) h
  have hmod : (Int64.ofNat k).toBitVec.smod 64 = BitVec.ofNat 64 k := by
    interval_cases k <;> decide
  rw [Int64.toBitVec_shiftLeft, hmod, BitVec.shiftLeft_eq', BitVec.toNat_shiftLeft,
    ofNat_toBitVec_toNat hn, ofNat_toBitVec_toNat h, BitVec.toNat_ofNat,
    Nat.mod_eq_of_lt (by omega : k < 2 ^ 64), Nat.shiftLeft_eq, Nat.mod_eq_of_lt h]

theorem routingKey_ofNat {g s : Nat} (hg : g < 256) (hs : s < 256) :
    routingKey (Int64.ofNat g) (Int64.ofNat s) = Int64.ofNat (s * 2 ^ 8 + g) := by
  have hkey : s * 2 ^ 8 + g < 2 ^ 64 := by omega
  have hlt : s * 2 ^ 8 < 2 ^ 64 := lt_of_le_of_lt (Nat.le_add_right _ _) hkey
  have hid : g < 2 ^ 64 := lt_of_le_of_lt (Nat.le_add_left _ _) hkey
  have hshift : Int64.ofNat s <<< (8 : Int64) = Int64.ofNat (s * 2 ^ 8) :=
    shiftLeft_ofNat hlt (by decide)
  unfold routingKey
  rw [hshift]
  apply Int64.toBitVec_inj.mp
  apply BitVec.eq_of_toNat_eq
  rw [Int64.toBitVec_or, BitVec.toNat_or, ofNat_toBitVec_toNat hlt, ofNat_toBitVec_toNat hid,
    ofNat_toBitVec_toNat hkey, ← Nat.shiftLeft_eq, Nat.shiftLeft_add_eq_or_of_lt hg]

theorem toInt_routingKey {g s : Nat} (hg : g < 256) (hs : s < 256) :
    (routingKey (Int64.ofNat g) (Int64.ofNat s)).toInt = (s * 2 ^ 8 + g : Nat) := by
  rw [routingKey_ofNat hg hs, Int64.toInt_ofNat_of_lt (by omega)]

/-- **The routing key determines the link id and the slot.** -/
theorem routingKey_inj {g' s' : Int64} (hg : InByte g) (hg' : InByte g') (hs : InByte s)
    (hs' : InByte s') (h : routingKey g s = routingKey g' s') : g = g' ∧ s = s' := by
  obtain ⟨a, ha, rfl⟩ := hg.exists_ofNat
  obtain ⟨a', ha', rfl⟩ := hg'.exists_ofNat
  obtain ⟨b, hb, rfl⟩ := hs.exists_ofNat
  obtain ⟨b', hb', rfl⟩ := hs'.exists_ofNat
  have hkey := congrArg Int64.toInt h
  rw [toInt_routingKey ha hb, toInt_routingKey ha' hb'] at hkey
  obtain rfl : a = a' := by omega
  obtain rfl : b = b' := by omega
  exact ⟨rfl, rfl⟩

theorem routeTable_inj {g' s' : Int64}
    (h : (newSlotIdentity g s).routeTable = (newSlotIdentity g' s').routeTable) :
    routingKey g s = routingKey g' s' := by
  have hsum : routeTableBase + routingKey g s = routeTableBase + routingKey g' s' := h
  exact (Int64.add_right_inj _).mp hsum

/-- A mark reads back as the routing key in the high half of a 32-bit number. -/
theorem parseHex_mark {g s : Nat} (hg : g < 256) (hs : s < 256) :
    parseHex (newSlotIdentity (Int64.ofNat g) (Int64.ofNat s)).mark =
      some ((s * 2 ^ 8 + g) * 2 ^ 16) := by
  have hlt : (s * 2 ^ 8 + g) * 2 ^ 16 < 2 ^ 63 := by omega
  have hshift : Int64.ofNat (s * 2 ^ 8 + g) <<< (16 : Int64) =
      Int64.ofNat ((s * 2 ^ 8 + g) * 2 ^ 16) :=
    shiftLeft_ofNat (hlt.trans (by decide)) (by decide)
  have hint : (routingKey (Int64.ofNat g) (Int64.ofNat s) <<< (16 : Int64)).toInt =
      Int.ofNat ((s * 2 ^ 8 + g) * 2 ^ 16) := by
    rw [routingKey_ofNat hg hs, hshift, Int64.toInt_ofNat_of_lt hlt]
    rfl
  show parseHex ("0x" ++ hex08 (routingKey _ _ <<< 16).toInt) = _
  rw [hint, parseHex_hex08]

/-! ## Discovery -/

theorem ownedSlot_eq_some {name : String} {slot : Int64} :
    ownedSlot g name = some slot ↔ InByte slot ∧ (newSlotIdentity g slot).interface = name := by
  have hmem : ∀ x, x ∈ ((List.range slotCount).map Int64.ofNat).reverse ↔ InByte x := by
    intro x
    rw [List.mem_reverse, List.mem_map]
    constructor
    · rintro ⟨n, hn, rfl⟩
      exact inByte_ofNat (List.mem_range.mp hn)
    · intro hx
      obtain ⟨n, hn, rfl⟩ := hx.exists_ofNat
      exact ⟨n, List.mem_range.mpr hn, rfl⟩
  constructor
  · intro h
    exact ⟨(hmem slot).mp (List.mem_of_find?_eq_some h), by simpa using List.find?_some h⟩
  · rintro ⟨hslot, hname⟩
    unfold ownedSlot
    rcases hfound : List.find? _ _ with _ | found
    · have hnone := List.find?_eq_none.mp hfound slot ((hmem slot).mpr hslot)
      exact absurd hname (by simpa using hnone)
    · have hfoundName : (newSlotIdentity g found).interface = name := by
        simpa using List.find?_some hfound
      rw [(interface_inj (hfoundName.trans hname.symm)).2]

/-- **Discovery**: the slots whose interface is among the names. -/
theorem mem_inheritedSlots {names : List String} {slot : Int64} :
    slot ∈ inheritedSlots names g ↔ InByte slot ∧ (newSlotIdentity g slot).interface ∈ names := by
  unfold inheritedSlots
  rw [List.mem_insertionSort, List.mem_filterMap]
  constructor
  · rintro ⟨name, hname, howned⟩
    obtain ⟨hslot, rfl⟩ := ownedSlot_eq_some.mp howned
    exact ⟨hslot, hname⟩
  · rintro ⟨hslot, hname⟩
    exact ⟨_, hname, ownedSlot_eq_some.mpr ⟨hslot, rfl⟩⟩

/-! ## Lengths -/

theorem length_toString_ofNat {n k : Nat} (hk : 0 < k) (h : n < 10 ^ k) (hn : n < 2 ^ 63) :
    (toString (Int64.ofNat n).toInt).toList.length ≤ k := by
  rw [Int64.toInt_ofNat_of_lt hn]
  have htext : (toString (n : Int)).toList = Nat.toDigits 10 n := toList_toString_ofNat n
  rw [htext]
  exact (Nat.length_toDigits_le_iff (by decide) hk).mpr h

/-- An interface name of a link id and slot below 256 has at most 12 characters. -/
theorem interface_length (hg : InByte g) (hs : InByte s) :
    (newSlotIdentity g s).interface.length ≤ 12 := by
  obtain ⟨a, ha, rfl⟩ := hg.exists_ofNat
  obtain ⟨b, hb, rfl⟩ := hs.exists_ofNat
  have hid := length_toString_ofNat (k := 3) (by decide) (by omega : a < 10 ^ 3) (by omega)
  have hslot := length_toString_ofNat (k := 3) (by decide) (by omega : b < 10 ^ 3) (by omega)
  have hsuffix : (slotSuffix (Int64.ofNat b)).length ≤ 4 := by
    unfold slotSuffix
    split_ifs
    · rw [List.length_cons]
      omega
    · exact Nat.zero_le _
  show (interfaceName _ _).length ≤ 12
  rw [← String.length_toList, interfaceName_toList, List.length_append, List.length_append]
  have hhead : "wg-gw".toList.length = 5 := by decide
  omega

end WireguardGateway.Link
