import Mathlib.Data.List.Nodup
import WireguardGateway.Lib.NetIP

/-!
# Tunnel addresses and capacity

`tunnelAddresses` (`internal/controller/gcp_zones.go`) accepts a subnet with the two tunnel ends in
it and returns the addresses the other members may take; `capacity` is how many members the subnet
has room for.

Results:
* `usableHost_iff`: a usable host is an address strictly between the first and the last one of an
  IPv4 subnet of at least four addresses;
* `tunnelAddresses_eq_ok`: when `tunnelAddresses` accepts, and what it then returns;
* **`TunnelPlan.of_tunnelAddresses`**: an accepted plan has exactly `capacity - 1` eligible
  addresses, at most 255, which parse to pairwise distinct usable hosts other than both ends;
* **`tunnel_address_arithmetic`**: for every prefix length, exactly which texts are accepted, and
  that the eligible addresses are the first ones in order.
-/

namespace WireguardGateway.Controller

open Lib

def capacityLimit : Nat := 256

/-- `networkRange`: the first address and the number of addresses, `(0, 0)` if not IPv4. -/
def networkRange (n : IPNet) : Nat × Nat :=
  if n.bits = 32 then (n.ip, 2 ^ (32 - n.ones)) else (0, 0)

/-- `usableHost`. -/
def usableHost (n : IPNet) (ip : Nat) : Bool :=
  match to4 ip with
  | none => false
  | some v =>
    let (base, size) := networkRange n
    if !n.contains v ∨ size < 4 then false else v ≠ base ∧ v ≠ base + size - 1

/-- `capacityOf`. -/
def capacityOf (n : IPNet) : Nat :=
  let size := (networkRange n).2
  if size < 4 then 0 else min (size - 2 - 1) capacityLimit

/-- `capacity`. -/
def capacity (subnet : String) : Nat :=
  match parseCIDR subnet with
  | none => 0
  | some n => capacityOf n

/-- The eligible loop: `steps` hosts from offset `i` on, skipping the taken ones, until `want` are
found. -/
def eligibleHosts (base : Nat) (taken : List Nat) : (steps i want : Nat) → List Nat
  | 0, _, _ => []
  | _ + 1, _, 0 => []
  | steps + 1, i, want + 1 =>
    let host := (base + i) % 2 ^ 32
    if host ∈ taken then eligibleHosts base taken steps (i + 1) (want + 1)
    else host :: eligibleHosts base taken steps (i + 1) want

/-- `tunnelAddresses`: the eligible addresses, or the reason of the rejection. -/
def tunnelAddresses (subnet gatewayAddress linkAddress : String) :
    Except String (List String) :=
  match parseCIDR subnet with
  | none => .error ("spec.wireguard.subnet " ++ quote subnet ++ " is not a valid CIDR")
  | some n =>
    match parseIP gatewayAddress with
    | none =>
      .error ("spec.wireguard.gatewayAddress " ++ quote gatewayAddress ++
        " is not a valid address")
    | some gateway =>
      match parseIP linkAddress with
      | none =>
        .error ("spec.wireguard.linkAddress " ++ quote linkAddress ++ " is not a valid address")
      | some link =>
        if gateway = link then
          .error ("spec.wireguard.gatewayAddress and spec.wireguard.linkAddress must be " ++
            "distinct, both are " ++ quote gatewayAddress)
        else if !usableHost n gateway then
          .error ("spec.wireguard.gatewayAddress " ++ quote gatewayAddress ++
            " is not a usable host of spec.wireguard.subnet " ++ quote subnet)
        else if !usableHost n link then
          .error ("spec.wireguard.linkAddress " ++ quote linkAddress ++
            " is not a usable host of spec.wireguard.subnet " ++ quote subnet)
        else
          let (base, size) := networkRange n
          let taken := [gateway % 2 ^ 32, link % 2 ^ 32]
          .ok ((eligibleHosts base taken (size - 2) 1 (capacityOf n - 1)).map formatV4)

/-! ## The usable hosts of a subnet -/

/-- The addresses strictly between the first and the last one. -/
def hosts (n : IPNet) : List Nat :=
  let (base, size) := networkRange n
  (List.range' 1 (size - 2)).map (base + ·)

variable {n : IPNet} {subnet : String}

theorem mem_hosts {v : Nat} :
    v ∈ hosts n ↔ (networkRange n).1 < v ∧ v + 1 < (networkRange n).1 + (networkRange n).2 := by
  simp only [hosts, List.mem_map, List.mem_range'_1]
  constructor
  · rintro ⟨i, hi, rfl⟩
    omega
  · intro h
    exact ⟨v - (networkRange n).1, by omega, by omega⟩

theorem nodup_hosts (n : IPNet) : (hosts n).Nodup :=
  (List.nodup_range' ..).map fun _ _ h => Nat.add_left_cancel h

/-- A masked address and its network share the quotient by the network's size. -/
theorem maskTo_eq_iff {v u ones : Nat} :
    maskTo v 32 ones = maskTo u 32 ones ↔
      maskTo u 32 ones ≤ v ∧ v < maskTo u 32 ones + 2 ^ (32 - ones) := by
  have hpos : 0 < 2 ^ (32 - ones) := Nat.two_pow_pos _
  unfold maskTo
  generalize 2 ^ (32 - ones) = size at hpos
  constructor
  · intro h
    rw [← h]
    exact ⟨Nat.div_mul_le_self v size, Nat.lt_div_mul_add hpos⟩
  · rintro ⟨hl, hu⟩
    rw [show v / size = u / size from by
      rw [Nat.div_eq_iff hpos]
      omega]

/-- An IPv4 network of a parsed CIDR ends at or below `2 ^ 32`. -/
theorem networkRange_le (h : parseCIDR subnet = some n) :
    (networkRange n).1 + (networkRange n).2 ≤ 2 ^ 32 := by
  obtain ⟨hones, -, hip⟩ := parseCIDR_eq_some h
  unfold networkRange
  split
  · rename_i hb
    obtain ⟨u, hu, hip⟩ := hip hb
    rw [hb] at hones
    rw [hip, maskTo]
    have hsize : 2 ^ n.ones * 2 ^ (32 - n.ones) = 2 ^ 32 := by
      rw [← Nat.pow_add]
      congr 1
      omega
    have hq : u / 2 ^ (32 - n.ones) < 2 ^ n.ones :=
      Nat.div_lt_of_lt_mul (by rw [Nat.mul_comm, hsize]; exact hu)
    calc u / 2 ^ (32 - n.ones) * 2 ^ (32 - n.ones) + 2 ^ (32 - n.ones)
        = (u / 2 ^ (32 - n.ones) + 1) * 2 ^ (32 - n.ones) := (Nat.succ_mul _ _).symm
      _ ≤ 2 ^ n.ones * 2 ^ (32 - n.ones) := Nat.mul_le_mul_right _ hq
      _ = 2 ^ 32 := hsize
  · simp only [Nat.add_zero, Nat.zero_le]

/-- A usable host is an IPv4 address strictly inside a subnet of at least four addresses. -/
theorem usableHost_iff (h : parseCIDR subnet = some n) {ip : Nat} :
    usableHost n ip ↔ ∃ v, to4 ip = some v ∧ v ∈ hosts n ∧ 4 ≤ (networkRange n).2 := by
  unfold usableHost
  cases hv : to4 ip with
  | none => simp
  | some v =>
    simp only [Option.some.injEq, exists_eq_left', mem_hosts]
    obtain ⟨-, hbits, hip⟩ := parseCIDR_eq_some h
    rcases hbits with hb | hb
    · -- an IPv4 network: membership is the range between base and base + size
      obtain ⟨u, -, hip⟩ := hip hb
      have hc : n.contains v ↔ n.ip ≤ v ∧ v < n.ip + 2 ^ (32 - n.ones) := by
        rw [IPNet.contains, if_pos hb, decide_eq_true_iff, hip, maskTo_eq_iff]
      simp only [networkRange, if_pos hb, Bool.not_eq_true', ← Bool.not_eq_true, hc]
      split
      · simp only [Bool.false_eq_true, false_iff]
        omega
      · simp only [Bool.decide_and, decide_not, Bool.and_eq_true, Bool.not_eq_true',
          decide_eq_false_iff_not]
        omega
    · -- a 128-bit network has no range, so no host
      have hb' : ¬ n.bits = 32 := by omega
      simp [networkRange, if_neg hb']

/-! ## What is accepted, and the eligible addresses -/

theorem tunnelAddresses_eq_ok {gw link : String} {eligible : List String}
    (h : tunnelAddresses subnet gw link = .ok eligible) :
    ∃ n gv lv, parseCIDR subnet = some n ∧ parseIP gw = some (ofV4 gv) ∧
      parseIP link = some (ofV4 lv) ∧ gv ≠ lv ∧ gv ∈ hosts n ∧ lv ∈ hosts n ∧
      4 ≤ (networkRange n).2 ∧
      eligible = (eligibleHosts (networkRange n).1 [gv, lv] ((networkRange n).2 - 2) 1
        (capacityOf n - 1)).map formatV4 := by
  unfold tunnelAddresses at h
  cases hn : parseCIDR subnet with
  | none => rw [hn] at h; cases h
  | some n =>
  cases hg : parseIP gw with
  | none => simp only [hn, hg] at h; cases h
  | some gi =>
  cases hl : parseIP link with
  | none => simp only [hn, hg, hl] at h; cases h
  | some li =>
  simp only [hn, hg, hl] at h
  split at h
  · cases h
  · rename_i hne
    split at h
    · cases h
    · rename_i hug
      split at h
      · cases h
      · rename_i hul
        cases h
        simp only [Bool.not_eq_true', Bool.not_eq_false, usableHost_iff hn] at hug hul
        obtain ⟨gv, hgv, hgm, hsz⟩ := hug
        obtain ⟨lv, hlv, hlm, -⟩ := hul
        obtain ⟨rfl, hgb⟩ := ofV4_of_to4 hgv
        obtain ⟨rfl, hlb⟩ := ofV4_of_to4 hlv
        refine ⟨n, gv, lv, rfl, rfl, rfl, fun h => hne (by rw [h]), hgm, hlm, hsz, ?_⟩
        rw [show ofV4 gv % 2 ^ 32 = gv from by unfold ofV4; omega,
          show ofV4 lv % 2 ^ 32 = lv from by unfold ofV4; omega]

/-- The loop keeps the first `want` hosts that are not taken. -/
theorem eligibleHosts_eq {base : Nat} {taken : List Nat} :
    ∀ {steps i want : Nat}, base + i + steps ≤ 2 ^ 32 →
      eligibleHosts base taken steps i want =
        (((List.range' i steps).map (base + ·)).filter (· ∉ taken)).take want
  | 0, i, want, _ => by simp [eligibleHosts]
  | steps + 1, i, 0, _ => by simp [eligibleHosts]
  | steps + 1, i, want + 1, h => by
    have hmod : (base + i) % 2 ^ 32 = base + i := Nat.mod_eq_of_lt (by omega)
    have ih := fun want => @eligibleHosts_eq base taken steps (i + 1) want (by omega)
    simp only [eligibleHosts, hmod, List.range'_succ, List.map_cons, List.filter_cons, ih]
    by_cases ht : base + i ∈ taken
    · simp [ht]
    · simp [ht]

/-- The hosts left for members: all but the two ends. -/
def freeHosts (n : IPNet) (gv lv : Nat) : List Nat := (hosts n).filter (· ∉ [gv, lv])

theorem length_freeHosts {gv lv : Nat} (hg : gv ∈ hosts n) (hl : lv ∈ hosts n) (hne : gv ≠ lv) :
    (freeHosts n gv lv).length = (networkRange n).2 - 4 := by
  have herase : freeHosts n gv lv = ((hosts n).erase gv).erase lv := by
    rw [((nodup_hosts n).erase gv).erase_eq_filter lv, (nodup_hosts n).erase_eq_filter gv,
      List.filter_filter, freeHosts]
    refine List.filter_congr fun v _ => ?_
    simp [Bool.and_comm, bne, beq_eq_decide]
  have hlen : (hosts n).length = (networkRange n).2 - 2 := by simp [hosts]
  rw [herase, List.length_erase_of_mem, List.length_erase_of_mem hg, hlen]
  · omega
  · exact (List.mem_erase_of_ne hne.symm).mpr hl

/-- An address that parses to a usable host of the subnet. -/
def UsableAddress (subnet address : String) : Prop :=
  ∃ n ip, parseCIDR subnet = some n ∧ parseIP address = some ip ∧ usableHost n ip

/-- What an accepted triple of subnet and tunnel ends promises the members: slot `0` has the
Gateway's own address and slot `s` the `s - 1`-th eligible one. -/
structure TunnelPlan (subnet gw link : String) (eligible : List String) : Prop where
  capacity_le : capacity subnet ≤ capacityLimit
  length : (gw :: eligible).length = capacity subnet
  usable : ∀ a ∈ gw :: eligible, UsableAddress subnet a
  distinct : ((gw :: eligible).map parseIP).Nodup
  ne_link : ∀ a ∈ gw :: eligible, parseIP a ≠ parseIP link

theorem capacityOf_pos (h : 4 ≤ (networkRange n).2) :
    capacityOf n = min ((networkRange n).2 - 3) capacityLimit ∧ 1 ≤ capacityOf n := by
  unfold capacityOf capacityLimit
  rw [if_neg (by omega)]
  omega

/-- **What an accepted plan promises.** -/
theorem TunnelPlan.of_tunnelAddresses {gw link : String} {eligible : List String}
    (h : tunnelAddresses subnet gw link = .ok eligible) : TunnelPlan subnet gw link eligible := by
  obtain ⟨n, gv, lv, hn, hg, hl, hne, hgm, hlm, hsz, rfl⟩ := tunnelAddresses_eq_ok h
  have hend := networkRange_le hn
  obtain ⟨hcap, hpos⟩ := capacityOf_pos hsz
  have hc : capacity subnet = capacityOf n := by simp only [capacity, hn]
  have hvs : eligibleHosts (networkRange n).1 [gv, lv] ((networkRange n).2 - 2) 1
      (capacityOf n - 1) = (freeHosts n gv lv).take (capacityOf n - 1) :=
    eligibleHosts_eq (by omega)
  rw [hvs]
  have hlen := length_freeHosts hgm hlm hne
  have hmem : ∀ v ∈ (freeHosts n gv lv).take (capacityOf n - 1),
      v ∈ hosts n ∧ v ≠ gv ∧ v ≠ lv := fun v hv => by
    simpa [freeHosts] using List.mem_of_mem_take hv
  have hlt : ∀ v ∈ hosts n, v < 2 ^ 32 := fun v hv => by
    have := mem_hosts.mp hv
    omega
  -- every member address prints one host, so it parses back to it
  have hparse : (((freeHosts n gv lv).take (capacityOf n - 1)).map formatV4).map parseIP =
      ((freeHosts n gv lv).take (capacityOf n - 1)).map fun v => some (ofV4 v) := by
    rw [List.map_map]
    refine List.map_congr_left fun v hv => ?_
    rw [Function.comp_apply, parseIP_formatV4 (hlt v (hmem v hv).1)]
  have hinj : Function.Injective fun v => some (ofV4 v) :=
    fun _ _ h => ofV4_injective (Option.some.inj h)
  have husable : ∀ v ∈ hosts n, ∀ {a : String}, parseIP a = some (ofV4 v) →
      UsableAddress subnet a := fun v hv a ha =>
    ⟨n, ofV4 v, hn, ha, (usableHost_iff hn).mpr ⟨v, to4_ofV4 (hlt v hv), hv, hsz⟩⟩
  refine ⟨by rw [hc, hcap]; exact Nat.min_le_right .., ?_, ?_, ?_, ?_⟩
  · rw [List.length_cons, List.length_map, List.length_take, hlen, hc]
    omega
  · intro a ha
    rcases List.mem_cons.mp ha with rfl | ha
    · exact husable gv hgm hg
    · obtain ⟨v, hv, rfl⟩ := List.mem_map.mp ha
      exact husable v (hmem v hv).1 (parseIP_formatV4 (hlt v (hmem v hv).1))
  · rw [List.map_cons, hparse, hg, List.nodup_cons]
    constructor
    · intro hm
      obtain ⟨v, hv, heq⟩ := List.mem_map.mp hm
      exact (hmem v hv).2.1 (hinj heq)
    · exact (((nodup_hosts n).filter _).sublist (List.take_sublist _ _)).map hinj
  · intro a ha
    rw [hl]
    rcases List.mem_cons.mp ha with rfl | ha
    · rw [hg]
      exact fun h => hne (hinj h)
    · obtain ⟨v, hv, rfl⟩ := List.mem_map.mp ha
      rw [parseIP_formatV4 (hlt v (hmem v hv).1)]
      exact fun h => (hmem v hv).2.2 (hinj h)

example : tunnelAddresses "10.99.0.0/29" "10.99.0.1" "10.99.0.2" =
    .ok ["10.99.0.3", "10.99.0.4", "10.99.0.5", "10.99.0.6"] := by decide

/-! ## The arithmetic for every prefix length -/

/-- `address` is the IPv4 address `v`, a host of the network other than its
first and last address. -/
def IsInnerHost (n : IPNet) (address : String) (v : Nat) : Prop :=
  parseIP address = some (ofV4 v) ∧ n.ip < v ∧ v < n.ip + 2 ^ (32 - n.ones) - 1

section

variable {subnet gw link : String} {n : IPNet}

theorem networkRange_v4 (h4 : n.bits = 32) : networkRange n = (n.ip, 2 ^ (32 - n.ones)) := if_pos h4

theorem mem_hosts_v4 (h4 : n.bits = 32) {v : Nat} :
    v ∈ hosts n ↔ n.ip < v ∧ v < n.ip + 2 ^ (32 - n.ones) - 1 := by
  rw [mem_hosts, networkRange_v4 h4]
  omega

theorem pairwise_hosts (n : IPNet) : (hosts n).Pairwise (· < ·) := by
  unfold hosts
  refine List.Pairwise.map _ (fun _ _ h => Nat.add_lt_add_left h _) ?_
  exact List.pairwise_lt_range' ..

/-- Two distinct inner hosts of a subnet of at least four addresses are accepted. -/
theorem tunnelAddresses_accepts (hn : parseCIDR subnet = some n) {gv lv : Nat}
    (hg : parseIP gw = some (ofV4 gv)) (hl : parseIP link = some (ofV4 lv)) (hne : gv ≠ lv)
    (hgm : gv ∈ hosts n) (hlm : lv ∈ hosts n) (hsize : 4 ≤ (networkRange n).2) :
    ∃ eligible, tunnelAddresses subnet gw link = .ok eligible := by
  have hend := networkRange_le hn
  have husable : ∀ {v}, v ∈ hosts n → usableHost n (ofV4 v) = true := fun {v} hv => by
    have hlt := mem_hosts.mp hv
    exact (usableHost_iff hn).mpr ⟨v, to4_ofV4 (by omega), hv, hsize⟩
  have hne' : ofV4 gv ≠ ofV4 lv := fun h => hne (ofV4_injective h)
  simp only [tunnelAddresses, hn, hg, hl, if_neg hne', husable hgm, husable hlm, Bool.not_true,
    Bool.false_eq_true, if_false]
  exact ⟨_, rfl⟩

/-- **The tunnel address arithmetic**, for every IPv4 subnet and any two address texts: which are
accepted, and which hosts are then eligible. -/
theorem tunnel_address_arithmetic (hn : parseCIDR subnet = some n) (h4 : n.bits = 32)
    (gw link : String) :
    ((∃ eligible, tunnelAddresses subnet gw link = .ok eligible) ↔
      4 ≤ 2 ^ (32 - n.ones) ∧ ∃ gv lv, IsInnerHost n gw gv ∧ IsInnerHost n link lv ∧ gv ≠ lv) ∧
    ∀ eligible, tunnelAddresses subnet gw link = .ok eligible →
      ∃ gv lv vs, IsInnerHost n gw gv ∧ IsInnerHost n link lv ∧ eligible = vs.map formatV4 ∧
        vs = ((hosts n).filter (· ∉ [gv, lv])).take (capacity subnet - 1) ∧ vs.Pairwise (· < ·) ∧
        eligible.length = capacity subnet - 1 ∧ 1 ≤ capacity subnet ∧ capacity subnet ≤ 256 ∧
        ∀ i < 2 ^ (32 - n.ones), n.ip + i < 2 ^ 32 := by
  have hrange := networkRange_v4 h4
  have hend := networkRange_le hn
  rw [hrange] at hend
  have hc : capacity subnet = capacityOf n := by simp only [capacity, hn]
  -- what an accepted triple is
  have hok : ∀ eligible, tunnelAddresses subnet gw link = .ok eligible →
      ∃ gv lv, IsInnerHost n gw gv ∧ IsInnerHost n link lv ∧ gv ≠ lv ∧
        4 ≤ 2 ^ (32 - n.ones) ∧
        eligible = ((freeHosts n gv lv).take (capacityOf n - 1)).map formatV4 := by
    intro eligible h
    obtain ⟨n', gv, lv, hn', hg, hl, hne, hgm, hlm, hsize, rfl⟩ := tunnelAddresses_eq_ok h
    obtain rfl : n' = n := Option.some.inj (hn'.symm.trans hn)
    rw [hrange] at hsize
    refine ⟨gv, lv, ⟨hg, (mem_hosts_v4 h4).mp hgm⟩, ⟨hl, (mem_hosts_v4 h4).mp hlm⟩, hne, hsize, ?_⟩
    rw [eligibleHosts_eq (by rw [hrange]; omega)]
    rfl
  refine ⟨⟨?_, ?_⟩, fun eligible h => ?_⟩
  · rintro ⟨eligible, h⟩
    obtain ⟨gv, lv, hg, hl, hne, hsize, -⟩ := hok eligible h
    exact ⟨hsize, gv, lv, hg, hl, hne⟩
  · rintro ⟨hsize, gv, lv, ⟨hg, hgm⟩, ⟨hl, hlm⟩, hne⟩
    exact tunnelAddresses_accepts hn hg hl hne ((mem_hosts_v4 h4).mpr hgm)
      ((mem_hosts_v4 h4).mpr hlm) (by rw [hrange]; exact hsize)
  · obtain ⟨gv, lv, hg, hl, hne, hsize, rfl⟩ := hok eligible h
    have hsize' : 4 ≤ (networkRange n).2 := by rw [hrange]; exact hsize
    obtain ⟨hcap, hpos⟩ := capacityOf_pos hsize'
    have hlen := length_freeHosts ((mem_hosts_v4 h4).mpr hg.2) ((mem_hosts_v4 h4).mpr hl.2) hne
    refine ⟨gv, lv, _, hg, hl, rfl, by rw [hc]; rfl, ?_, ?_, by rw [hc]; exact hpos, ?_, ?_⟩
    · exact ((pairwise_hosts n).filter _).sublist (List.take_sublist _ _)
    · rw [List.length_map, List.length_take, hlen, hc]
      omega
    · rw [hc, hcap]
      exact Nat.min_le_right ..
    · intro i hi
      omega

end

/-- The smallest subnet with room for both ends has room for one member, and no other address. -/
theorem tunnel_address_arithmetic_slash30 :
    tunnelAddresses "10.0.0.0/30" "10.0.0.1" "10.0.0.2" = .ok [] ∧ capacity "10.0.0.0/30" = 1 ∧
      ∃ gv lv, IsInnerHost { ip := 167772160, bits := 32, ones := 30 } "10.0.0.1" gv ∧
        IsInnerHost { ip := 167772160, bits := 32, ones := 30 } "10.0.0.2" lv ∧ gv ≠ lv := by
  have hok : tunnelAddresses "10.0.0.0/30" "10.0.0.1" "10.0.0.2" = .ok [] := by decide
  have hn : parseCIDR "10.0.0.0/30" = some { ip := 167772160, bits := 32, ones := 30 } := by decide
  exact ⟨hok, by decide, ((tunnel_address_arithmetic hn rfl "10.0.0.1" "10.0.0.2").1.mp ⟨_, hok⟩).2⟩

end WireguardGateway.Controller
