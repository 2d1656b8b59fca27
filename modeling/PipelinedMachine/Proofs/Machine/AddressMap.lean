import PipelinedMachine.Proofs.Machine.Balance

/-!
# The address map

Three pieces of the machine sort addresses: the table of regions, the router's comparisons and the
hub's search for a base.  This file says what each of them does, and that they agree.

* `Region.contains_iff`, `regionAt_eq_some` — the regions are disjoint intervals without gaps;
* `DeviceHub.ServesByBase` — what a hub does to its requests, for every hub that calls of `attach`
  lead to;
* `Component`, `Component.ofAddress` — the component that the address map gives an address to;
* **`Component.targetOf_eq`** — the router sends reads and writes towards that component.
-/

namespace PipelinedMachine

/-! ## Regions -/

namespace Region

lemma mem_all (region : Region) : region ∈ all := by
  cases region <;> decide

/-- Each region ends where the next one begins. -/
lemma isChain_all : all.IsChain fun region next => region.last.toInt + 1 = next.first.toInt := by
  decide

/-- The bounds as numbers. -/
lemma contains_iff {region : Region} {address : Word} : region.contains address = true ↔
    region.first.toInt ≤ address.toInt ∧ address.toInt ≤ region.last.toInt := by
  simp [contains, Int32.le_iff_toInt_le]

lemma bounds_eq (region : Region) : (region.first.toInt, region.last.toInt) =
    match region with
    | vectors => (0, 511)
    | rom => (512, 1535)
    | display => (1536, 3587)
    | keyboard => (3588, 3588)
    | ram => (3589, 134221316)
    | disk => (134221317, 134221319) := by
  cases region <;> rfl

/-- No address is in two regions. -/
lemma eq_of_contains {region other : Region} {address : Word}
    (first : region.contains address = true) (second : other.contains address = true) :
    region = other := by
  rw [contains_iff] at first second
  have one := region.bounds_eq
  have two := other.bounds_eq
  cases region <;> cases other <;> simp only [Prod.mk.injEq] at one two <;>
    first | rfl | (exfalso; omega)

end Region

/-- The table of regions names the one region that contains the address. -/
lemma regionAt_eq_some {address : Word} {region : Region} :
    regionAt address = some region ↔ region.contains address = true := by
  constructor
  · intro found
    exact List.find?_some (p := fun region : Region => region.contains address) found
  · intro inside
    cases found : regionAt address with
    | none => simpa [inside] using List.find?_eq_none.mp found region region.mem_all
    | some other =>
      have here := List.find?_some (p := fun region : Region => region.contains address) found
      rw [Region.eq_of_contains here inside]

/-! ## Hubs -/

namespace DeviceHub

/-- The hub after a call of `attach`; a call that is refused changes nothing. -/
def attachOrKeep (hub : DeviceHub) (call : Attachment) : DeviceHub :=
  match hub.attach call.base call.terminal with
  | .ok hub => hub
  | .error _ => hub

/-- The hub after calls of `attach`, one after the other. -/
def attachAll (hub : DeviceHub) (calls : List Attachment) : DeviceHub :=
  calls.foldl attachOrKeep hub

/-- The bases rise from each device to the next. -/
def Ascending (hub : DeviceHub) : Prop :=
  hub.devices.Pairwise fun device next => device.base < next.base

/-- What a hub does with its requests and with a call of `attach`. -/
structure ServesByBase (hub : DeviceHub) : Prop where
  ascending : hub.Ascending
  /-- A device is attached if its base is above all the others, and refused otherwise. -/
  accepts : ∀ base terminal, (∀ device ∈ hub.devices, device.base < base) →
    hub.attachOrKeep ⟨base, terminal⟩ = { hub with devices := hub.devices ++ [⟨base, terminal⟩] }
  refuses : ∀ base terminal, ∀ device ∈ hub.devices, base ≤ device.base →
    hub.attachOrKeep ⟨base, terminal⟩ = hub ∧ ∃ previous ∈ hub.devices,
      hub.attach base terminal = .error (.notAscending base previous.base)
  /-- A request goes to the device with the greatest base that is not above its address. -/
  forwards : ∀ bus message address, bus.message? hub.uplink = some message →
    message.address? = some address → ∀ device ∈ hub.devices, device.base ≤ address →
      (∀ other ∈ hub.devices, other.base ≤ address → other.base ≤ device.base) →
        hub.request bus = (bus.forward? hub.uplink device.terminal).getD bus
  /-- A request below every base is dropped. -/
  drops : ∀ bus message address, bus.message? hub.uplink = some message →
    message.address? = some address → (∀ device ∈ hub.devices, address < device.base) →
      hub.request bus = bus.clear hub.uplink

variable {hub : DeviceHub} {base address : Word} {terminal : Terminal} {device last : Attachment}

lemma ascending_new (uplink : Terminal) : Ascending ⟨uplink, []⟩ := List.Pairwise.nil

/-- The device attached last has the greatest base. -/
lemma Ascending.le_last (ascending : hub.Ascending) (found : hub.devices.getLast? = some last)
    (member : device ∈ hub.devices) : device.base ≤ last.base := by
  obtain ⟨before, split⟩ := List.getLast?_eq_some_iff.mp found
  rw [Ascending, split, List.pairwise_append] at ascending
  rw [split, List.mem_append, List.mem_singleton] at member
  rcases member with earlier | rfl
  · exact Int32.le_of_lt (ascending.2.2 device earlier last (List.mem_singleton_self last))
  · exact Int32.le_refl _

lemma attach_of_above
    (above : ∀ device ∈ hub.devices, device.base < base) :
    hub.attach base terminal = .ok { hub with devices := hub.devices ++ [⟨base, terminal⟩] } := by
  rw [attach]
  split
  · next last found =>
    have below := above last (List.mem_of_getLast? found)
    rw [if_neg (Int32.not_le.mpr below)]
  · rfl

lemma attach_of_not_above (ascending : hub.Ascending) (member : device ∈ hub.devices)
    (below : base ≤ device.base) : ∃ previous ∈ hub.devices,
      hub.attach base terminal = .error (.notAscending base previous.base) := by
  cases found : hub.devices.getLast? with
  | none =>
    rw [List.getLast?_eq_none_iff.mp found] at member
    contradiction
  | some last =>
    refine ⟨last, List.mem_of_getLast? found, ?_⟩
    have late := Int32.le_trans below (ascending.le_last found member)
    simp [attach, found, late]

/-- Calls of `attach` keep the bases in order. -/
lemma Ascending.attachOrKeep (ascending : hub.Ascending) (call : Attachment) :
    (hub.attachOrKeep call).Ascending := by
  by_cases above : ∀ device ∈ hub.devices, device.base < call.base
  · rw [DeviceHub.attachOrKeep, attach_of_above above, Ascending, List.pairwise_append]
    refine ⟨ascending, List.pairwise_singleton _ _, fun device member other single => ?_⟩
    rw [List.mem_singleton.mp single]
    exact above device member
  · obtain ⟨device, member, below⟩ := by simpa using above
    obtain ⟨previous, -, refused⟩ : ∃ previous ∈ hub.devices,
        hub.attach call.base call.terminal = .error (.notAscending call.base previous.base) :=
      attach_of_not_above ascending member (Int32.not_lt.mp (by simpa using below))
    rw [DeviceHub.attachOrKeep, refused]
    exact ascending

lemma Ascending.attachAll (ascending : hub.Ascending) (calls : List Attachment) :
    (hub.attachAll calls).Ascending := by
  induction calls generalizing hub with
  | nil => exact ascending
  | cons call calls ih => exact ih (ascending.attachOrKeep call)

/-- The hub finds the device with the greatest base that is not above an address. -/
lemma Ascending.deviceFor?_eq (ascending : hub.Ascending) (member : device ∈ hub.devices)
    (owns : device.base ≤ address)
    (greatest : ∀ other ∈ hub.devices, other.base ≤ address → other.base ≤ device.base) :
    hub.deviceFor? address = some device.terminal := by
  obtain ⟨before, after, split⟩ := List.append_of_mem member
  have later (other : Attachment) (inside : other ∈ after) : ¬other.base ≤ address := by
    intro owned
    rw [Ascending, split, List.pairwise_append, List.pairwise_cons] at ascending
    have higher := ascending.2.1.1 other inside
    exact Int32.not_le.mpr higher (greatest other (by simp [split, inside]) owned)
  have none : (after.reverse.find? fun device => device.base ≤ address) = none := by
    rw [List.find?_eq_none]
    intro other inside
    simpa using later other (List.mem_reverse.mp inside)
  simp [deviceFor?, split, none, owns]

/-- The device that owns an address is attached. -/
lemma mem_of_deviceFor? (owned : hub.deviceFor? address = some terminal) :
    terminal ∈ hub.devices.map Attachment.terminal := by
  obtain ⟨attachment, found, rfl⟩ := Option.map_eq_some_iff.mp owned
  exact List.mem_map_of_mem (List.mem_reverse.mp (List.mem_of_find?_eq_some found))

lemma deviceFor?_eq_none (below : ∀ device ∈ hub.devices, address < device.base) :
    hub.deviceFor? address = none := by
  rw [deviceFor?, Option.map_eq_none_iff, List.find?_eq_none]
  intro device member
  simpa using Int32.not_le.mpr (below device (List.mem_reverse.mp member))

/-- A hub whose bases are in order serves by base. -/
theorem Ascending.servesByBase (ascending : hub.Ascending) : hub.ServesByBase where
  ascending := ascending
  accepts base terminal above := by
    rw [DeviceHub.attachOrKeep, attach_of_above above]
  refuses base terminal device member below := by
    obtain ⟨previous, inside, refused⟩ := attach_of_not_above ascending member below
    exact ⟨by rw [DeviceHub.attachOrKeep, refused], previous, inside, refused⟩
  forwards bus message address waiting named device member owns greatest := by
    rw [request, waiting]
    simp only [named, Option.bind_some, ascending.deviceFor?_eq member owns greatest]
  drops bus message address waiting named below := by
    rw [request, waiting]
    simp only [named, Option.bind_some, deviceFor?_eq_none below]

end DeviceHub

/-! ## Components -/

/-- The components that reads and writes come to. -/
inductive Component where
  | controller
  | ram
  | rom
  | display
  | keyboard
  | disk
deriving DecidableEq, Repr

namespace Component

/-- The component that a region belongs to. -/
def ofRegion : Region → Component
  | .vectors => controller
  | .rom => rom
  | .display => display
  | .keyboard => keyboard
  | .ram => ram
  | .disk => disk

/-- The component that the address map gives an address to.  What lies below every region is the
controller's, and what lies above is the disk's. -/
def ofAddress (address : Word) : Component :=
  match regionAt address with
  | some region => ofRegion region
  | none => if address < AddressMap.vectorStart then controller else disk

/-- The router's target on the way to a component. -/
def target : Component → Target
  | controller => .controller
  | ram => .memory
  | rom | display | keyboard | disk => .devices

variable {address : Word}

lemma ofAddress_of_contains {region : Region} (inside : region.contains address = true) :
    ofAddress address = ofRegion region := by
  rw [ofAddress, regionAt_eq_some.mpr inside]

lemma ofAddress_of_outside (outside : regionAt address = none) : ofAddress address =
    if address < AddressMap.vectorStart then controller else disk := by
  rw [ofAddress, outside]

/-- Outside every region is below the first or above the last. -/
lemma outside_of_none (outside : regionAt address = none) :
    address.toInt < 0 ∨ 134221319 < address.toInt := by
  have apart (region : Region) : ¬(region.first.toInt ≤ address.toInt
      ∧ address.toInt ≤ region.last.toInt) := by
    intro inside
    rw [← Region.contains_iff, ← regionAt_eq_some, outside] at inside
    contradiction
  have bounds (region : Region) := Prod.mk.injEq _ _ _ _ ▸ region.bounds_eq
  have vectors := apart .vectors
  have rom := apart .rom
  have display := apart .display
  have keyboard := apart .keyboard
  have ram := apart .ram
  have disk := apart .disk
  simp only [bounds] at vectors rom display keyboard ram disk
  omega

/-- The component of an address by the bounds alone. -/
lemma ofAddress_eq (address : Word) : ofAddress address =
    if address.toInt < 512 then controller
    else if address.toInt < 1536 then rom
    else if address.toInt < 3588 then display
    else if address.toInt < 3589 then keyboard
    else if address.toInt < 134221317 then ram
    else disk := by
  cases found : regionAt address with
  | some region =>
    have inside := regionAt_eq_some.mp found
    rw [ofAddress_of_contains inside]
    rw [Region.contains_iff] at inside
    have bounds := region.bounds_eq
    cases region <;> simp only [Prod.mk.injEq] at bounds <;> split_ifs <;>
      first | rfl | (exfalso; omega)
  | none =>
    have below : address < AddressMap.vectorStart ↔ address.toInt < 0 := Int32.lt_iff_toInt_lt
    rw [ofAddress_of_outside found, if_congr below rfl rfl]
    rcases outside_of_none found with low | high
    · rw [if_pos low, if_pos (by omega)]
    · split_ifs <;> first | rfl | omega

lemma ofAddress_eq_controller_iff : ofAddress address = controller ↔ address.toInt < 512 := by
  rw [ofAddress_eq]
  split_ifs <;> simp_all

lemma isRam_iff : isRam address = true ↔ 3589 ≤ address.toInt ∧ address.toInt ≤ 134221316 :=
  Region.contains_iff

lemma ofAddress_eq_ram_iff : ofAddress address = ram ↔ isRam address = true := by
  rw [ofAddress_eq, isRam_iff]
  split_ifs <;> simp only [false_iff, true_iff] <;> omega

/-- What lies above every region is the disk's. -/
lemma ofAddress_eq_disk (above : ∀ region : Region, region.last < address) :
    ofAddress address = disk := by
  have last : (134221319 : Int) < address.toInt := Int32.lt_iff_toInt_lt.mp (above .disk)
  rw [ofAddress_eq]
  split_ifs <;> first | rfl | omega

/-- The router sends reads and writes towards the component of their address. -/
lemma targetOf_eq (address : Word) : Router.targetOf address = (ofAddress address).target := by
  have hub : address < AddressMap.hubStart ↔ address.toInt < 512 := Int32.lt_iff_toInt_lt
  rw [ofAddress_eq, Router.targetOf, if_congr hub rfl rfl, if_congr isRam_iff rfl rfl]
  split_ifs <;> first | rfl | (exfalso; omega)

end Component

end PipelinedMachine
