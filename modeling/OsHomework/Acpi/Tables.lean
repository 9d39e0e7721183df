import OsHomework.Acpi.Checksum

/-
  `GetACPITable`, `ChangeACPITable` and `UefiMain` of
  `HelloWorldPkg/HelloWorld.c`: find an ACPI table by signature
  through the system table's configuration entries, and rewrite
  the APIC table's OEM id.

  Each configuration entry with an ACPI 1.0 or 2.0 GUID points
  to an RSDP, whose `UINT64` at offset 24 is the XSDT.  The
  XSDT's entries are the `UINT64`s after its header; a FADT
  (`FACP`) also points to a DSDT (`UINT32` at 40) and a FACS
  (`UINT32` at 36).  The search returns the first table whose
  signature matches, visiting an entry before its DSDT and FACS.
  `NULL` is `none`.  `AllocatePool`'s buffer is the
  environment's address, and `PrintAllACPITables` only prints.

  Main declarations:
    * `EfiGuid`, `ConfigTable`, `getAcpiTableEntry`,
      `getAcpiTable`, `changeAcpiTable`, `uefiMain`
    * `entryTables`, `xsdtEntries`, `acpiTraversal`: the order
      the search visits tables in
    * `getAcpiTable_eq_find`, `uefiMain_apic`
-/

------------------------------------------------------------
-- Configuration Entries and Table Fields
------------------------------------------------------------

namespace OsHomework

namespace Acpi

open ByteMem

/- `EFI_GUID` -/
structure EfiGuid where
  data1 : UInt32
  data2 : UInt16
  data3 : UInt16
  data4 : List UInt8
deriving DecidableEq, Repr

/- `gEfiAcpiTableGuid`, the ACPI 1.0 RSDP. -/
def gEfiAcpiTableGuid : EfiGuid :=
  ⟨0xeb9d2d30, 0x2d88, 0x11d3, [0x9a, 0x16, 0x00, 0x90, 0x27, 0x3f, 0xc1, 0x4d]⟩

/- `gEfiAcpi20TableGuid`, the ACPI 2.0 RSDP. -/
def gEfiAcpi20TableGuid : EfiGuid :=
  ⟨0x8868e871, 0xe4f1, 0x11d3, [0xbc, 0x22, 0x00, 0x80, 0xc7, 0x3c, 0x88, 0x81]⟩

/- `CompareGuid` -/
def compareGuid
    (a b : EfiGuid) : Bool :=
  a == b

/- `EFI_CONFIGURATION_TABLE`: a GUID and the table it names. -/
structure ConfigTable where
  vendorGuid : EfiGuid
  vendorTable : Nat
deriving DecidableEq, Repr

/- `EFI_ACPI_2_0_FIXED_ACPI_DESCRIPTION_TABLE_SIGNATURE` -/
def facpSignature : Nat :=
  signature32 'F' 'A' 'C' 'P'

/- `EFI_ACPI_6_0_MULTIPLE_APIC_DESCRIPTION_TABLE_SIGNATURE` -/
def apicSignature : Nat :=
  signature32 'A' 'P' 'I' 'C'

/- `Root->XsdtAddress` of the RSDP at `rsdp`. -/
def rsdpXsdtAddress
    (mem : Mem)
    (rsdp : Nat) : Nat :=
  readLE mem (rsdp + 24) 8

/- `*EntryPtr` for entry `j`: `EntryPtr` starts at `XSDT + 1` and steps by a `UINT64`. -/
def xsdtEntry
    (mem : Mem)
    (xsdt j : Nat) : Nat :=
  readLE mem (xsdt + headerSize + 8 * j) 8

/- `FADT->Dsdt` -/
def fadtDsdt
    (mem : Mem)
    (fadt : Nat) : Nat :=
  readLE mem (fadt + 40) 4

/- `FADT->FirmwareCtrl` -/
def fadtFirmwareCtrl
    (mem : Mem)
    (fadt : Nat) : Nat :=
  readLE mem (fadt + 36) 4

end Acpi

end OsHomework

------------------------------------------------------------
-- GetACPITable, ChangeACPITable and UefiMain
------------------------------------------------------------

namespace OsHomework

namespace Acpi

open ByteMem

/-
  The body of `GetACPITable`'s XSDT loop for the entry
  `entry`: the table it returns, or none to go on.
-/
def getAcpiTableEntry
    (mem : Mem)
    (signature entry : Nat) : Option Nat :=
  if entry ≠ 0 then
    if tableSignature mem entry = signature then some entry
    else if tableSignature mem entry = facpSignature then
      let dsdt := fadtDsdt mem entry
      let facs := fadtFirmwareCtrl mem entry
      let fromDsdt :=
        if dsdt ≠ 0 then (if tableSignature mem dsdt = signature then some dsdt else none) else none
      let fromFacs :=
        if facs ≠ 0 then (if tableSignature mem facs = signature then some facs else none) else none
      fromDsdt.or fromFacs
    else none
  else none

/-
  `GetACPITable(Signature)` over the configuration entries of
  the system table: both loops return at the first match.
-/
def getAcpiTable
    (config : List ConfigTable)
    (mem : Mem)
    (signature : Nat) : Option Nat :=
  config.findSome? fun configTab =>
    if compareGuid configTab.vendorGuid gEfiAcpiTableGuid ||
        compareGuid configTab.vendorGuid gEfiAcpi20TableGuid then
      let xsdt := rsdpXsdtAddress mem configTab.vendorTable
      -- `(XSDT->Length - sizeof (EFI_ACPI_DESCRIPTION_HEADER)) / sizeof (UINT64)` in `UINTN`
      let n := (tableLength mem xsdt + 2 ^ 64 - headerSize) % 2 ^ 64 / 8
      (List.range n).findSome? fun j => getAcpiTableEntry mem signature (xsdtEntry mem xsdt j)
    else none

/- `ChangeACPITable(Signature, NewTable)` -/
def changeAcpiTable
    (config : List ConfigTable)
    (mem : Mem)
    (signature newTable : Nat) : Mem :=
  match getAcpiTable config mem signature with
  | some entry => modifyAcpiTable mem entry newTable
  | none => mem

/- The OEM id `UefiMain` writes: `'A'` to `'F'`. -/
def newOemId : List UInt8 :=
  ['A', 'B', 'C', 'D', 'E', 'F'].map fun c => c.toNat.toUInt8

/- `OFFSET_OF (EFI_ACPI_DESCRIPTION_HEADER, OemId)` -/
def oemIdField : Nat := 10

/-
  `UefiMain` with `AllocatePool` returning the buffer `pool`:
  copy the APIC table there, give the copy the new OEM id and
  write it back over the table.  It returns `EFI_SUCCESS`.
-/
def uefiMain
    (config : List ConfigTable)
    (mem : Mem)
    (pool : Nat) : Mem × Nat :=
  match getAcpiTable config mem apicSignature with
  | none => (mem, efiSuccess)
  | some entry =>
      let mem := copy mem pool entry (tableLength mem entry)
      let mem := load mem (pool + oemIdField) newOemId
      (modifyAcpiTable mem entry pool, efiSuccess)

end Acpi

end OsHomework

------------------------------------------------------------
-- The Order of the Search
------------------------------------------------------------

namespace OsHomework

namespace Acpi

open ByteMem

/- A configuration entry names an RSDP when its GUID is either ACPI GUID. -/
def IsAcpiGuid
    (g : EfiGuid) : Prop :=
  g = gEfiAcpiTableGuid ∨ g = gEfiAcpi20TableGuid

instance : DecidablePred IsAcpiGuid :=
  fun g => inferInstanceAs (Decidable (g = gEfiAcpiTableGuid ∨ g = gEfiAcpi20TableGuid))

/-
  The tables an XSDT entry leads to: none for a `NULL` entry,
  else the entry, followed for a FADT by its DSDT and then its
  FACS where these are not zero.
-/
def entryTables
    (mem : Mem)
    (entry : Nat) : List Nat :=
  if entry = 0 then []
  else
    entry ::
      if tableSignature mem entry = facpSignature then
        (if fadtDsdt mem entry = 0 then [] else [fadtDsdt mem entry]) ++
          (if fadtFirmwareCtrl mem entry = 0 then [] else [fadtFirmwareCtrl mem entry])
      else []

/- The XSDT's `(Length - 36) / 8` entries, in order. -/
def xsdtEntries
    (mem : Mem)
    (xsdt : Nat) : List Nat :=
  (List.range ((tableLength mem xsdt - headerSize) / 8)).map (xsdtEntry mem xsdt)

/- Every table the search can visit, in the order it visits them. -/
def acpiTraversal
    (config : List ConfigTable)
    (mem : Mem) : List Nat :=
  config.flatMap fun c =>
    if IsAcpiGuid c.vendorGuid then
      (xsdtEntries mem (rsdpXsdtAddress mem c.vendorTable)).flatMap (entryTables mem)
    else []

theorem findSome?_congr_of_mem
    {α β : Type}
    {f g : α → Option β} :
    ∀ {l : List α}, (∀ x ∈ l, f x = g x) → l.findSome? f = l.findSome? g
  | [], _ => rfl
  | x :: l, h => by
      rw [List.findSome?_cons, List.findSome?_cons, h x (List.mem_cons_self ..),
        findSome?_congr_of_mem (fun y hy => h y (List.mem_cons_of_mem x hy))]

/- The loop body returns the first table the entry leads to whose signature matches. -/
theorem getAcpiTableEntry_eq
    (mem : Mem)
    (signature entry : Nat) :
    getAcpiTableEntry mem signature entry =
      (entryTables mem entry).find? (fun t => tableSignature mem t = signature) := by
  unfold getAcpiTableEntry entryTables
  by_cases hNull : entry = 0
  · simp [hNull]
  by_cases hSelf : tableSignature mem entry = signature
  · simp [hNull, hSelf]
  by_cases hFadt : tableSignature mem entry = facpSignature
  · -- a FADT: its DSDT is tried before its FACS
    have hNe : facpSignature ≠ signature := hFadt ▸ hSelf
    simp only [ne_eq, hNull, not_false_eq_true, if_true, hFadt, hNe, if_false,
      List.find?_cons, decide_false, List.find?_append]
    by_cases hDsdt : fadtDsdt mem entry = 0 <;>
      by_cases hFacs : fadtFirmwareCtrl mem entry = 0 <;>
      simp [hDsdt, hFacs]
  · simp [hNull, hSelf, hFadt]

/- With `Length ≥ 36`, the unsigned entry count is `(Length - 36) / 8`. -/
theorem xsdtCount_eq
    {mem : Mem}
    {xsdt : Nat}
    (hLen : headerSize ≤ tableLength mem xsdt) :
    (tableLength mem xsdt + 2 ^ 64 - headerSize) % 2 ^ 64 / 8 =
      (tableLength mem xsdt - headerSize) / 8 := by
  have hLt : tableLength mem xsdt < 256 ^ 4 := readLE_lt mem _ 4
  generalize tableLength mem xsdt = len at hLt hLen ⊢
  simp only [headerSize] at hLen ⊢
  omega

/-
  Under `Length ≥ 36`, the XSDT loop returns the first match
  among the tables its entries lead to.
-/
theorem getAcpiTable_xsdt_eq
    {mem : Mem}
    {xsdt : Nat}
    (signature : Nat)
    (hLen : headerSize ≤ tableLength mem xsdt) :
    (List.range ((tableLength mem xsdt + 2 ^ 64 - headerSize) % 2 ^ 64 / 8)).findSome?
        (fun j => getAcpiTableEntry mem signature (xsdtEntry mem xsdt j)) =
      ((xsdtEntries mem xsdt).flatMap (entryTables mem)).find?
        (fun t => tableSignature mem t = signature) := by
  rw [xsdtCount_eq hLen, List.find?_flatMap, xsdtEntries, List.findSome?_map]
  simp only [getAcpiTableEntry_eq, Function.comp_def]

/-
  `GetACPITable` returns the first table of the traversal order
  whose signature matches, once each RSDP's XSDT has a full
  header.
-/
theorem getAcpiTable_eq_find
    {config : List ConfigTable}
    {mem : Mem}
    (signature : Nat)
    (hXsdt : ∀ c ∈ config, IsAcpiGuid c.vendorGuid →
      headerSize ≤ tableLength mem (rsdpXsdtAddress mem c.vendorTable)) :
    getAcpiTable config mem signature =
      (acpiTraversal config mem).find? (fun t => tableSignature mem t = signature) := by
  rw [getAcpiTable, acpiTraversal, List.find?_flatMap]
  apply findSome?_congr_of_mem
  intro c hc
  -- `CompareGuid` on either GUID is `IsAcpiGuid`
  have hGuid : (compareGuid c.vendorGuid gEfiAcpiTableGuid ||
      compareGuid c.vendorGuid gEfiAcpi20TableGuid) = decide (IsAcpiGuid c.vendorGuid) := by
    rw [Bool.eq_iff_iff]
    simp only [compareGuid, decide_eq_true_eq, Bool.or_eq_true, beq_iff_eq]
    rfl
  rw [hGuid]
  by_cases hAcpi : IsAcpiGuid c.vendorGuid
  · simp only [hAcpi, decide_true, if_true]
    exact getAcpiTable_xsdt_eq signature (hXsdt c hc hAcpi)
  · simp [hAcpi]

/-
  For any configuration entries whose RSDPs lead to XSDTs with
  a full header, `GetACPITable` returns `NULL` exactly when no
  table in the traversal order has the signature, and otherwise
  the first table in that order that has it.
-/
theorem get_acpi_table_returns_first_in_order
    (config : List ConfigTable)
    (mem : Mem)
    (signature : Nat)
    (hXsdt : ∀ c ∈ config, IsAcpiGuid c.vendorGuid →
      headerSize ≤ tableLength mem (rsdpXsdtAddress mem c.vendorTable)) :
    getAcpiTable config mem signature =
        (acpiTraversal config mem).find? (fun t => tableSignature mem t = signature) ∧
      (getAcpiTable config mem signature = none ↔
        ∀ t ∈ acpiTraversal config mem, tableSignature mem t ≠ signature) ∧
      ∀ t, getAcpiTable config mem signature = some t ↔
        tableSignature mem t = signature ∧
          ∃ before after, acpiTraversal config mem = before ++ t :: after ∧
            ∀ u ∈ before, tableSignature mem u ≠ signature := by
  have hEq := getAcpiTable_eq_find signature hXsdt
  refine ⟨hEq, ?_, ?_⟩
  · rw [hEq, List.find?_eq_none]
    simp
  · intro t
    rw [hEq, List.find?_eq_some_iff_append]
    simp

/- A table header: signature, length, and the rest of the 36 bytes zero. -/
def tableHeader
    (signature length : Nat) : List UInt8 :=
  encodeLE signature 4 ++ encodeLE length 4 ++ List.replicate 28 0

/-
  A firmware with one ACPI 2.0 RSDP at `0x1000`, whose XSDT at
  `0x2000` lists a FADT at `0x3000` (with a DSDT at `0x4000`
  and no FACS) and an APIC table at `0x5000`.
-/
def demoMem : Mem :=
  let mem := load (fun _ => 0) 0x1000 (List.replicate 24 0 ++ encodeLE 0x2000 8)
  let mem := load mem 0x2000 (tableHeader (signature32 'X' 'S' 'D' 'T') 52 ++
    encodeLE 0x3000 8 ++ encodeLE 0x5000 8)
  let mem := load mem 0x3000 (tableHeader facpSignature 44 ++ encodeLE 0 4 ++ encodeLE 0x4000 4)
  let mem := load mem 0x4000 (tableHeader (signature32 'D' 'S' 'D' 'T') 36)
  load mem 0x5000 (tableHeader apicSignature 36)

def demoConfig : List ConfigTable :=
  [⟨gEfiAcpi20TableGuid, 0x1000⟩]

/- The demo's XSDT has a full header; the DSDT is found after its FADT. -/
theorem get_acpi_table_returns_first_in_order_demo :
    headerSize ≤ tableLength demoMem (rsdpXsdtAddress demoMem 0x1000) ∧
      getAcpiTable demoConfig demoMem (signature32 'D' 'S' 'D' 'T') =
        (acpiTraversal demoConfig demoMem).find?
          (fun t => tableSignature demoMem t = signature32 'D' 'S' 'D' 'T') := by
  have hLen : headerSize ≤ tableLength demoMem (rsdpXsdtAddress demoMem 0x1000) := by
    decide +kernel
  refine ⟨hLen, ?_⟩
  apply (get_acpi_table_returns_first_in_order demoConfig demoMem _ ?_).1
  intro c hc _
  simp only [demoConfig, List.mem_singleton] at hc
  rw [hc]
  exact hLen

/- The traversal of the demo: the FADT, its DSDT, then the APIC table. -/
example : acpiTraversal demoConfig demoMem = [0x3000, 0x4000, 0x5000] := by
  decide +kernel

/- `ChangeACPITable` rewrites the first table of the traversal with the signature. -/
theorem changeAcpiTable_of_find
    {config : List ConfigTable}
    {mem : Mem}
    {signature newTable entry : Nat}
    (hXsdt : ∀ c ∈ config, IsAcpiGuid c.vendorGuid →
      headerSize ≤ tableLength mem (rsdpXsdtAddress mem c.vendorTable))
    (hFind : (acpiTraversal config mem).find? (fun t => tableSignature mem t = signature) =
      some entry) :
    changeAcpiTable config mem signature newTable = modifyAcpiTable mem entry newTable := by
  rw [changeAcpiTable, getAcpiTable_eq_find signature hXsdt, hFind]

/- With no table of the signature in the traversal, `ChangeACPITable` changes nothing. -/
theorem changeAcpiTable_of_none
    {config : List ConfigTable}
    {mem : Mem}
    {signature newTable : Nat}
    (hXsdt : ∀ c ∈ config, IsAcpiGuid c.vendorGuid →
      headerSize ≤ tableLength mem (rsdpXsdtAddress mem c.vendorTable))
    (hNone : ∀ t ∈ acpiTraversal config mem, tableSignature mem t ≠ signature) :
    changeAcpiTable config mem signature newTable = mem := by
  have hFind : (acpiTraversal config mem).find? (fun t => tableSignature mem t = signature) =
      none := by
    rw [List.find?_eq_none]
    simpa using hNone
  rw [changeAcpiTable, getAcpiTable_eq_find signature hXsdt, hFind]

theorem newOemId_length :
    newOemId.length = 6 :=
  rfl

/-
  The pool copy of the APIC table with the new OEM id: below
  the table's length it is the table with the OEM id loaded.
-/
theorem uefiMain_pool_of_lt
    {mem : Mem}
    {pool entry i : Nat}
    (hi : i < tableLength mem entry) :
    load (copy mem pool entry (tableLength mem entry)) (pool + oemIdField) newOemId (pool + i) =
      load mem (entry + oemIdField) newOemId (entry + i) := by
  have hLength := newOemId_length
  by_cases hOem : oemIdField ≤ i ∧ i < oemIdField + 6
  · -- both loads put the same OEM byte at offset `i`
    have hj : i - oemIdField < newOemId.length := by omega
    have hPool : pool + i = pool + oemIdField + (i - oemIdField) := by omega
    have hEntry : entry + i = entry + oemIdField + (i - oemIdField) := by omega
    rw [hPool, hEntry, load_of_lt hj, load_of_lt hj]
  · rw [load_of_not_mem (by omega), load_of_not_mem (by omega), copy_of_lt hi]

/-
  After `UefiMain` finds the APIC table, the table's first
  `Length` bytes are the old ones with the OEM id `ABCDEF`, bar
  the checksum, and they sum to 0 modulo 256.
-/
theorem uefiMain_apic
    {config : List ConfigTable}
    {mem : Mem}
    {pool entry : Nat}
    (hFound : getAcpiTable config mem apicSignature = some entry)
    (hLen : headerSize ≤ tableLength mem entry) :
    let mem' := (uefiMain config mem pool).1
    (∀ i < tableLength mem entry, i ≠ checksumField →
        mem' (entry + i) = load mem (entry + oemIdField) newOemId (entry + i)) ∧
      byteSum mem' entry (tableLength mem entry) % 256 = 0 := by
  intro mem'
  let poolMem :=
    load (copy mem pool entry (tableLength mem entry)) (pool + oemIdField) newOemId
  have hMem' : mem' = modifyAcpiTable poolMem entry pool := by
    simp only [mem', uefiMain, hFound]
    rfl
  -- the pool copy keeps the table's `Length` field, which lies before the OEM id
  have hPoolLen : tableLength poolMem pool = tableLength mem entry := by
    have hField : ∀ i < 4, poolMem (pool + 4 + i) = mem (entry + 4 + i) := by
      intro i hi
      have hLength := newOemId_length
      simp only [headerSize] at hLen
      simp only [poolMem]
      rw [Nat.add_assoc, Nat.add_assoc, uefiMain_pool_of_lt (by omega),
        load_of_not_mem (by simp only [oemIdField]; omega)]
    exact readLE_congr hField
  have hPoolHeader : headerSize ≤ tableLength poolMem pool := hPoolLen ▸ hLen
  rw [hMem', ← hPoolLen]
  refine ⟨?_, modifyAcpiTable_sum hPoolHeader⟩
  intro i hi hNe
  rw [modifyAcpiTable_of_lt hPoolHeader hi hNe]
  exact uefiMain_pool_of_lt (hPoolLen ▸ hi)

/- The demo's APIC table at `0x5000`, rewritten through a pool at `0x8000`. -/
theorem uefiMain_apic_demo :
    getAcpiTable demoConfig demoMem apicSignature = some 0x5000 ∧
      headerSize ≤ tableLength demoMem 0x5000 ∧
      byteSum (uefiMain demoConfig demoMem 0x8000).1 0x5000 (tableLength demoMem 0x5000) % 256 = 0 := by
  have hFound : getAcpiTable demoConfig demoMem apicSignature = some 0x5000 := by
    decide +kernel
  have hLen : headerSize ≤ tableLength demoMem 0x5000 := by
    decide +kernel
  exact ⟨hFound, hLen, (@uefiMain_apic demoConfig demoMem 0x8000 0x5000 hFound hLen).2⟩

end Acpi

end OsHomework
