import OsHomework.Lib.ByteMem

/-
  The ACPI table checksums of the two UEFI drivers:
  `AcpiCalculateChecksum` and `InstallAcpiTable` of
  `HardwareInfoAppPkg/HardwareInfoApp.c`, and `ModifyACPITable`
  of `HelloWorldPkg/HelloWorld.c`.

  A table starts with `EFI_ACPI_DESCRIPTION_HEADER`: the
  `UINT32` signature at offset 0, the `UINT32` length at 4 and
  the checksum byte at 9, all little-endian.  A table is valid
  when its `Length` bytes sum to 0 modulo 256.  `CopyMem` is
  `ByteMem.copy`, and `CalculateCheckSum8` of EDK2's `BaseLib`
  is `(UINT8)(0x100 - CalculateSum8(Buffer, Length))`.  The
  ACPI table protocol is the environment's: it answers
  `LocateProtocol` and `InstallAcpiTable` with a status.

  Main declarations:
    * `tableLength`, `tableSignature`, `acpiCalculateChecksum`,
      `modifyAcpiTable`, `installAcpiTable`, `runtimeInfoEntryPoint`,
      `zhwiTable`
    * `acpiCalculateChecksum_sum`, `modifyAcpiTable_of_lt`,
      `modifyAcpiTable_sum`, `installAcpiTable_sum`
-/

------------------------------------------------------------
-- Table Headers and Checksums
------------------------------------------------------------

namespace OsHomework

namespace Acpi

open ByteMem

/- `sizeof (EFI_ACPI_DESCRIPTION_HEADER)` -/
def headerSize : Nat := 36

/- `OFFSET_OF (EFI_ACPI_DESCRIPTION_HEADER, Checksum)` -/
def checksumField : Nat := 9

/- `Header->Signature` of the table at `table`. -/
def tableSignature
    (mem : Mem)
    (table : Nat) : Nat :=
  readLE mem table 4

/- `Header->Length` of the table at `table`. -/
def tableLength
    (mem : Mem)
    (table : Nat) : Nat :=
  readLE mem (table + 4) 4

/-
  `AcpiCalculateChecksum(Buffer, Size, ChecksumOffset)`: zero
  the checksum byte, add the `Size` bytes into a `UINT8`, and
  store `(UINT8)(0x100 - Sum)` at the checksum byte.
-/
def acpiCalculateChecksum
    (mem : Mem)
    (buffer size checksumOffset : Nat) : Mem :=
  let mem := Function.update mem (buffer + checksumOffset) 0
  let sum := (List.range size).foldl (fun sum index => sum + mem (buffer + index)) (0 : UInt8)
  Function.update mem (buffer + checksumOffset) (UInt8.ofNat (0x100 - sum.toNat))

/- `CalculateCheckSum8(Buffer, Length)` of EDK2's `BaseLib`. -/
def calculateCheckSum8
    (mem : Mem)
    (buffer length : Nat) : UInt8 :=
  checkSum8 (sum8 mem buffer length)

/-
  `ModifyACPITable(entry, NewTable)`: copy `NewTable->Length`
  bytes over the entry, zero its checksum and store
  `CalculateCheckSum8` of the entry's own `Length` bytes.
-/
def modifyAcpiTable
    (mem : Mem)
    (entry newTable : Nat) : Mem :=
  let mem := copy mem entry newTable (tableLength mem newTable)
  let mem := Function.update mem (entry + checksumField) 0
  Function.update mem (entry + checksumField) (calculateCheckSum8 mem entry (tableLength mem entry))

end Acpi

end OsHomework

------------------------------------------------------------
-- Installing the ZHWI Table
------------------------------------------------------------

namespace OsHomework

namespace Acpi

open ByteMem

/- `EFI_SUCCESS` -/
def efiSuccess : Nat := 0

/- `EFI_ERROR(Status)`: the top bit of the `UINTN` status. -/
def EfiError
    (status : Nat) : Prop :=
  2 ^ 63 ≤ status

instance : DecidablePred EfiError :=
  fun status => inferInstanceAs (Decidable (2 ^ 63 ≤ status))

/-
  The firmware's answers: the status of `LocateProtocol` for
  the ACPI table protocol, and the status its
  `InstallAcpiTable` returns for the bytes it is handed.
-/
structure AcpiEnv where
  locateStatus : Nat
  installStatus : List UInt8 → Nat

/-
  `InstallAcpiTable()` with `mZhwiTable` at address `table`:
  locate the protocol, checksum the table over its `Length`
  bytes, and hand those bytes to the protocol.
-/
def installAcpiTable
    (env : AcpiEnv)
    (mem : Mem)
    (table : Nat) : Mem × Nat :=
  if EfiError env.locateStatus then (mem, env.locateStatus)
  else
    let mem := acpiCalculateChecksum mem table (tableLength mem table) checksumField
    let status := env.installStatus (bytesAt mem table (tableLength mem table))
    if EfiError status then (mem, status) else (mem, efiSuccess)

/- `RuntimeInfoEntryPoint`, the driver's entry point: install the table, pass on an error. -/
def runtimeInfoEntryPoint
    (env : AcpiEnv)
    (mem : Mem)
    (table : Nat) : Mem × Nat :=
  let (mem, status) := installAcpiTable env mem table
  if EfiError status then (mem, status) else (mem, efiSuccess)

/- `SIGNATURE_32(A, B, C, D)`: four characters as a little-endian `UINT32`. -/
def signature32
    (a b c d : Char) : Nat :=
  a.toNat + b.toNat * 2 ^ 8 + c.toNat * 2 ^ 16 + d.toNat * 2 ^ 24

/- `ZHWI_SIGNATURE` -/
def zhwiSignature : Nat :=
  signature32 'Z' 'H' 'W' 'I'

/-
  The initializer of `mZhwiTable`, packed: the header with
  length `sizeof (ZHWI_TABLE) = 60` and a zero checksum, then
  the table's four `UINT32` fields and its `UINT64` time stamp.
-/
def zhwiTable : List UInt8 :=
  encodeLE zhwiSignature 4 ++ encodeLE 60 4 ++ [1, 0] ++
    ['J'.toNat.toUInt8, 'A'.toNat.toUInt8, 'S'.toNat.toUInt8, 'O'.toNat.toUInt8,
      'N'.toNat.toUInt8, 0] ++
    encodeLE 114514 8 ++ encodeLE 1 4 ++ encodeLE 19260817 4 ++ encodeLE 1 4 ++
    encodeLE 1 4 ++ encodeLE 2500 4 ++ encodeLE 420 4 ++ encodeLE 30 4 ++
    encodeLE 1650000000 8

example : zhwiTable.length = 60 := by decide

end Acpi

end OsHomework

------------------------------------------------------------
-- What the Checksums Leave
------------------------------------------------------------

namespace OsHomework

namespace Acpi

open ByteMem

/- The loop of `AcpiCalculateChecksum` is the 8-bit sum of the zeroed buffer. -/
theorem acpiCalculateChecksum_eq
    (mem : Mem)
    (buffer size checksumOffset : Nat) :
    acpiCalculateChecksum mem buffer size checksumOffset =
      let zeroed := Function.update mem (buffer + checksumOffset) 0
      Function.update zeroed (buffer + checksumOffset) (checkSum8 (sum8 zeroed buffer size)) :=
  rfl

theorem acpiCalculateChecksum_sum
    (mem : Mem)
    {buffer size checksumOffset : Nat}
    (hOff : checksumOffset < size) :
    byteSum (acpiCalculateChecksum mem buffer size checksumOffset) buffer size % 256 = 0 := by
  rw [acpiCalculateChecksum_eq]
  exact byteSum_update_checkSum8 hOff (Function.update_self _ _ _)

theorem acpiCalculateChecksum_of_ne
    (mem : Mem)
    {buffer size checksumOffset x : Nat}
    (hx : x ≠ buffer + checksumOffset) :
    acpiCalculateChecksum mem buffer size checksumOffset x = mem x := by
  rw [acpiCalculateChecksum_eq]
  simp only [Function.update_of_ne hx]

/- The checksum byte lies inside the header, so inside any table at least a header long. -/
theorem checksumField_lt
    {len : Nat}
    (hLen : headerSize ≤ len) :
    checksumField < len := by
  simp only [headerSize, checksumField] at hLen ⊢
  omega

section Modify

variable {mem : Mem} {entry newTable : Nat}

/- The entry right after the copy and the zeroed checksum, before the new one. -/
def copiedEntry
    (mem : Mem)
    (entry newTable : Nat) : Mem :=
  Function.update (copy mem entry newTable (tableLength mem newTable)) (entry + checksumField) 0

/- Below the new table's length, the copied entry holds the new table's bytes, bar the checksum. -/
theorem copiedEntry_of_lt
    {i : Nat}
    (hi : i < tableLength mem newTable)
    (hNe : i ≠ checksumField) :
    copiedEntry mem entry newTable (entry + i) = mem (newTable + i) := by
  simp only [copiedEntry]
  rw [Function.update_of_ne (by omega), copy_of_lt hi]

/- The copied entry's `Length` field is the new table's: the field lies before the checksum. -/
theorem tableLength_copiedEntry
    (hLen : headerSize ≤ tableLength mem newTable) :
    tableLength (copiedEntry mem entry newTable) entry = tableLength mem newTable := by
  simp only [headerSize] at hLen
  have hField : ∀ i < 4,
      copiedEntry mem entry newTable (entry + 4 + i) = mem (newTable + 4 + i) := by
    intro i hi
    rw [Nat.add_assoc, Nat.add_assoc, copiedEntry_of_lt (by omega) (by simp only [checksumField]; omega)]
  exact readLE_congr hField

theorem modifyAcpiTable_eq
    (hLen : headerSize ≤ tableLength mem newTable) :
    modifyAcpiTable mem entry newTable =
      Function.update (copiedEntry mem entry newTable) (entry + checksumField)
        (checkSum8 (sum8 (copiedEntry mem entry newTable) entry (tableLength mem newTable))) := by
  rw [← tableLength_copiedEntry hLen]
  rfl

/- The first `Length` bytes of the entry are the new table's, bar the checksum. -/
theorem modifyAcpiTable_of_lt
    (hLen : headerSize ≤ tableLength mem newTable)
    {i : Nat}
    (hi : i < tableLength mem newTable)
    (hNe : i ≠ checksumField) :
    modifyAcpiTable mem entry newTable (entry + i) = mem (newTable + i) := by
  rw [modifyAcpiTable_eq hLen, Function.update_of_ne (by omega), copiedEntry_of_lt hi hNe]

/- The entry's first `Length` bytes sum to 0 modulo 256. -/
theorem modifyAcpiTable_sum
    (hLen : headerSize ≤ tableLength mem newTable) :
    byteSum (modifyAcpiTable mem entry newTable) entry (tableLength mem newTable) % 256 = 0 := by
  rw [modifyAcpiTable_eq hLen]
  exact byteSum_update_checkSum8 (checksumField_lt hLen) (Function.update_self _ _ _)

/- Nothing outside the entry's first `Length` bytes changes. -/
theorem modifyAcpiTable_of_not_mem
    (hLen : headerSize ≤ tableLength mem newTable)
    {x : Nat}
    (hx : ¬ (entry ≤ x ∧ x < entry + tableLength mem newTable)) :
    modifyAcpiTable mem entry newTable x = mem x := by
  have hNe : x ≠ entry + checksumField := by
    have hField := checksumField_lt hLen
    omega
  rw [modifyAcpiTable_eq hLen, Function.update_of_ne hNe]
  simp only [copiedEntry]
  rw [Function.update_of_ne hNe, copy_of_not_mem hx]

end Modify

/-
  Whatever the firmware answers, once the protocol is found
  the table is checksummed over its `Length` bytes, which keep
  that length: what the protocol is handed sums to 0 modulo 256.
-/
theorem installAcpiTable_sum
    (env : AcpiEnv)
    {mem : Mem}
    {table : Nat}
    (hLocate : ¬ EfiError env.locateStatus)
    (hLen : checksumField < tableLength mem table) :
    byteSum (installAcpiTable env mem table).1 table (tableLength mem table) % 256 = 0 ∧
      tableLength (installAcpiTable env mem table).1 table = tableLength mem table := by
  have hMem : (installAcpiTable env mem table).1 =
      acpiCalculateChecksum mem table (tableLength mem table) checksumField := by
    simp only [installAcpiTable, if_neg hLocate]
    split_ifs <;> rfl
  rw [hMem]
  refine ⟨acpiCalculateChecksum_sum mem hLen, ?_⟩
  -- the checksum byte lies after the `Length` field
  apply readLE_congr
  intro i hi
  apply acpiCalculateChecksum_of_ne
  simp only [checksumField]
  omega

/-
  `AcpiCalculateChecksum` makes its buffer sum to 0 modulo 256
  and changes only the checksum byte; `ModifyACPITable` leaves
  the entry's first `Length` bytes equal to the new table's bar
  the checksum, summing to 0 modulo 256, and nothing else.
-/
theorem acpi_checksum_tables_sum_to_zero :
    (∀ (mem : Mem) (buffer size checksumOffset : Nat), checksumOffset < size →
      byteSum (acpiCalculateChecksum mem buffer size checksumOffset) buffer size % 256 = 0 ∧
        ∀ x, x ≠ buffer + checksumOffset →
          acpiCalculateChecksum mem buffer size checksumOffset x = mem x) ∧
    (∀ (mem : Mem) (entry newTable : Nat), headerSize ≤ tableLength mem newTable →
      (∀ i < tableLength mem newTable, i ≠ checksumField →
          modifyAcpiTable mem entry newTable (entry + i) = mem (newTable + i)) ∧
        byteSum (modifyAcpiTable mem entry newTable) entry (tableLength mem newTable) % 256 = 0 ∧
        ∀ x, ¬ (entry ≤ x ∧ x < entry + tableLength mem newTable) →
          modifyAcpiTable mem entry newTable x = mem x) := by
  constructor
  · intro mem buffer size checksumOffset hOff
    exact ⟨acpiCalculateChecksum_sum mem hOff, fun x hx => acpiCalculateChecksum_of_ne mem hx⟩
  · intro mem entry newTable hLen
    refine ⟨?_, modifyAcpiTable_sum hLen, ?_⟩
    · intro i hi hNe
      exact modifyAcpiTable_of_lt hLen hi hNe
    · intro x hx
      exact modifyAcpiTable_of_not_mem hLen hx

/- Where the driver's `mZhwiTable` lies, and memory holding it. -/
def zhwiAddr : Nat := 0x7e000000

def zhwiMem : Mem :=
  load (fun _ => 0) zhwiAddr zhwiTable

/-
  The ZHWI table: checksummed in place, and copied one page up
  by `ModifyACPITable`, it sums to 0 modulo 256 both times.
-/
theorem acpi_checksum_tables_sum_to_zero_zhwi :
    checksumField < tableLength zhwiMem zhwiAddr ∧
      byteSum (acpiCalculateChecksum zhwiMem zhwiAddr (tableLength zhwiMem zhwiAddr) checksumField)
          zhwiAddr (tableLength zhwiMem zhwiAddr) % 256 = 0 ∧
      headerSize ≤ tableLength zhwiMem zhwiAddr ∧
      byteSum (modifyAcpiTable zhwiMem (zhwiAddr + 4096) zhwiAddr) (zhwiAddr + 4096)
          (tableLength zhwiMem zhwiAddr) % 256 = 0 := by
  have hField : checksumField < tableLength zhwiMem zhwiAddr := by decide
  have hHeader : headerSize ≤ tableLength zhwiMem zhwiAddr := by decide
  exact ⟨hField, (acpi_checksum_tables_sum_to_zero.1 _ _ _ _ hField).1, hHeader,
    (acpi_checksum_tables_sum_to_zero.2 _ _ _ hHeader).2.1⟩

/- The driver's table has length 60 and gets the checksum byte `0x8a`. -/
example : tableLength zhwiMem zhwiAddr = 60 := by decide

example :
    acpiCalculateChecksum zhwiMem zhwiAddr 60 checksumField (zhwiAddr + checksumField) = 0x8a := by
  decide +kernel

end Acpi

end OsHomework
