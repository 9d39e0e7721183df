import OsHomework.Acpi.Checksum

/-
  The kernel side of the ZHWI table, from
  `drivers/firmware/efi/efi_custom_hwinfo.c`: `hw_info_init`
  finds the table the UEFI driver of `HardwareInfoApp.c`
  installs, and four sysfs attributes show its fields.

  Each side declares the table its own way.  The UEFI
  `ZHWI_TABLE` is the 36-byte header, four `UINT32` fields and
  a `UINT64` time stamp, 60 bytes packed; the kernel's
  `struct zhwi_table` has the same fields at the same offsets
  and one more, the `u64 runtime_functions_ptr` at offset 60,
  so it is 68 bytes.  `read_zhwi_acpi_table` only warns when
  the table is shorter than that, and its test
  `runtime_functions_ptr && FALSE` reads the pointer before
  `FALSE` ends the test: the runtime functions are never mapped,
  and each attribute shows the table's own field.

  `acpi_get_table`, `ioremap` and the sysfs calls are the
  environment's.  A show function gives the text `sysfs_emit`
  writes, whose length it returns, or its errno.  The reads of
  the table are recorded as (address, width) pairs.

  Main declarations:
    * `ZhwiFields`, `zhwiBytes`: the packed UEFI table
    * `HwInfo`, `readZhwiAcpiTable`, `hwInfoInit`
    * `fieldShow`, `fanSpeedShow`, `cpuTempShow`,
      `systemLoadShow`, `timestampShow`
-/

------------------------------------------------------------
-- The Table the UEFI Driver Lays Out
------------------------------------------------------------

namespace OsHomework

namespace Acpi

open ByteMem

/- The fields of `ZHWI_TABLE` after its header. -/
structure ZhwiFields where
  revision : UInt32
  fanSpeed : UInt32
  cpuTemp : UInt32
  systemLoad : UInt32
  timestamp : UInt64
deriving DecidableEq, Repr

/- `ZHWI_TABLE` under `#pragma pack(1)`: the header bytes, then each field little-endian. -/
def zhwiBytes
    (header : List UInt8)
    (f : ZhwiFields) : List UInt8 :=
  header ++ encodeLE f.revision.toNat 4 ++ encodeLE f.fanSpeed.toNat 4 ++
    encodeLE f.cpuTemp.toNat 4 ++ encodeLE f.systemLoad.toNat 4 ++
    encodeLE f.timestamp.toNat 8

/- The fields `mZhwiTable` is initialized with. -/
def mZhwiFields : ZhwiFields :=
  ⟨1, 2500, 420, 30, 1650000000⟩

example : zhwiTable = zhwiBytes (zhwiTable.take headerSize) mZhwiFields := by decide

end Acpi

end OsHomework

------------------------------------------------------------
-- The Kernel Driver
------------------------------------------------------------

namespace OsHomework

namespace Acpi

open ByteMem

def ENODEV : Int := 19

def ENOMEM : Int := 12

/- `sizeof(struct zhwi_table)`: the UEFI table and `runtime_functions_ptr`. -/
def sizeofZhwiTable : Nat := 68

/- `struct zhwi_runtime_functions`: what each function returns, none for a NULL pointer. -/
structure ZhwiRuntimeFunctions where
  getFanSpeed : Option Nat
  getCpuTemp : Option Nat
  getSystemLoad : Option Nat
  getTimestamp : Option Nat
deriving DecidableEq, Repr

/-
  The driver's globals `zhwi_tbl` and `runtime_funcs`, and
  which of its sysfs objects exist: the `zhwi` kobject, its
  `sensors` attribute group and the `hw_sensors` link.
-/
structure HwInfo where
  zhwiTbl : Option Nat
  runtimeFuncs : Option ZhwiRuntimeFunctions
  hwInfoKobj : Bool
  sensors : Bool
  hwSensorsLink : Bool
deriving DecidableEq, Repr

/- Before `late_initcall`: both pointers NULL and no sysfs object. -/
def HwInfo.boot : HwInfo :=
  ⟨none, none, false, false, false⟩

/-
  What the driver finds in the kernel: the first ACPI table
  with a signature, what `ioremap` maps at an address, whether
  `kobject_create_and_add` succeeds, what `sysfs_create_group`
  returns, whether `efi_kobj` is set and what
  `sysfs_create_link` returns.
-/
structure HwInfoEnv where
  acpiGetTable : Nat → Option Nat
  ioremap : Nat → Option ZhwiRuntimeFunctions
  kobjectOk : Bool
  groupRet : Int
  efiKobj : Bool
  linkRet : Int

/-
  `read_zhwi_acpi_table()`: `acpi_get_table` sets `zhwi_tbl`,
  NULL when no table has the signature.  The length check only
  warns, and the `pr_info` reads the fan speed, the temperature
  twice and the load.
-/
def readZhwiAcpiTable
    (env : HwInfoEnv)
    (mem : Mem)
    (st : HwInfo) : HwInfo × Int × List (Nat × Nat) :=
  match env.acpiGetTable zhwiSignature with
  | none => ({ st with zhwiTbl := none }, -ENODEV, [])
  | some t =>
      let st := { st with zhwiTbl := some t }
      let checkReads :=
        if tableLength mem t < sizeofZhwiTable then [(t + 4, 4), (t + 4, 4)] else [(t + 4, 4)]
      let infoReads := [(t + 40, 4), (t + 44, 4), (t + 44, 4), (t + 48, 4)]
      let ptr := readLE mem (t + 60) 8
      let reads := checkReads ++ infoReads ++ [(t + 60, 8)]
      -- `runtime_functions_ptr && FALSE`: the pointer is read, then `FALSE` ends the test
      if ptr ≠ 0 ∧ False then ({ st with runtimeFuncs := env.ioremap ptr }, 0, reads)
      else (st, 0, reads)

/-
  `hw_info_init()`: read the table, then make the kobject under
  `/sys/firmware` and its attribute group; `kobject_put` drops
  the kobject when the group fails, and a failed link only
  warns.
-/
def hwInfoInit
    (env : HwInfoEnv)
    (mem : Mem)
    (st : HwInfo) : HwInfo × Int × List (Nat × Nat) :=
  let r := readZhwiAcpiTable env mem st
  if r.2.1 ≠ 0 then r
  else if !env.kobjectOk then (r.1, -ENOMEM, r.2.2)
  else if env.groupRet ≠ 0 then (r.1, env.groupRet, r.2.2)
  else
    let st := { r.1 with hwInfoKobj := true, sensors := true }
    if env.efiKobj = true ∧ env.linkRet = 0 then ({ st with hwSensorsLink := true }, 0, r.2.2)
    else (st, 0, r.2.2)

/-
  The show function of a field printed as one number: the
  runtime function's value when `runtime_funcs` and its pointer
  are set, else the `width`-byte field at `offset` of the table,
  each in decimal with a newline, and `-ENODEV` with no table.
-/
def fieldShow
    (getFn : ZhwiRuntimeFunctions → Option Nat)
    (offset width : Nat)
    (mem : Mem)
    (st : HwInfo) : Except Int String :=
  match st.runtimeFuncs.bind getFn with
  | some v => .ok (toString v ++ "\n")
  | none =>
      match st.zhwiTbl with
      | none => .error (-ENODEV)
      | some t => .ok (toString (readLE mem (t + offset) width) ++ "\n")

/- `fan_speed_show`: `%llu` of the runtime value, `%u` of `fan_speed`. -/
def fanSpeedShow : Mem → HwInfo → Except Int String :=
  fieldShow ZhwiRuntimeFunctions.getFanSpeed 40 4

/- `system_load_show`: `%llu` of the runtime value, `%u` of `system_load`. -/
def systemLoadShow : Mem → HwInfo → Except Int String :=
  fieldShow ZhwiRuntimeFunctions.getSystemLoad 48 4

/- `timestamp_show`: `%llu` of the runtime value and of the `u64` `timestamp`. -/
def timestampShow : Mem → HwInfo → Except Int String :=
  fieldShow ZhwiRuntimeFunctions.getTimestamp 52 8

/- `cpu_temp_show`: tenths of a degree, printed as the degrees, a dot and the tenths. -/
def cpuTempShow
    (mem : Mem)
    (st : HwInfo) : Except Int String :=
  match st.runtimeFuncs.bind ZhwiRuntimeFunctions.getCpuTemp with
  | some temp => .ok (toString (temp / 10) ++ "." ++ toString (temp % 10) ++ "\n")
  | none =>
      match st.zhwiTbl with
      | none => .error (-ENODEV)
      | some t =>
          let temp := readLE mem (t + 44) 4
          .ok (toString (temp / 10) ++ "." ++ toString (temp % 10) ++ "\n")

end Acpi

end OsHomework

------------------------------------------------------------
-- What the Attributes Show
------------------------------------------------------------

namespace OsHomework

namespace Acpi

open ByteMem

/- The fields of a packed table read back at their offsets. -/
theorem readLE_zhwiBytes
    {mem : Mem}
    {t : Nat}
    {header : List UInt8}
    {f : ZhwiFields}
    (hHeader : header.length = headerSize)
    (hTable : bytesAt mem t 60 = zhwiBytes header f) :
    readLE mem (t + 40) 4 = f.fanSpeed.toNat ∧
      readLE mem (t + 44) 4 = f.cpuTemp.toNat ∧
      readLE mem (t + 48) 4 = f.systemLoad.toNat ∧
      readLE mem (t + 52) 8 = f.timestamp.toNat := by
  have hH : headerSize = 36 := rfl
  -- one split of the table for each field: the bytes before it, its encoding, the rest
  have hFan := @readLE_of_bytesAt mem t 60 f.fanSpeed.toNat 4 (header ++ encodeLE f.revision.toNat 4)
    (encodeLE f.cpuTemp.toNat 4 ++ encodeLE f.systemLoad.toNat 4 ++ encodeLE f.timestamp.toNat 8)
    (by rw [hTable]; simp only [zhwiBytes, List.append_assoc])
  have hTemp := @readLE_of_bytesAt mem t 60 f.cpuTemp.toNat 4
    (header ++ encodeLE f.revision.toNat 4 ++ encodeLE f.fanSpeed.toNat 4)
    (encodeLE f.systemLoad.toNat 4 ++ encodeLE f.timestamp.toNat 8)
    (by rw [hTable]; simp only [zhwiBytes, List.append_assoc])
  have hLoad := @readLE_of_bytesAt mem t 60 f.systemLoad.toNat 4
    (header ++ encodeLE f.revision.toNat 4 ++ encodeLE f.fanSpeed.toNat 4 ++
      encodeLE f.cpuTemp.toNat 4) (encodeLE f.timestamp.toNat 8)
    (by rw [hTable]; simp only [zhwiBytes, List.append_assoc])
  have hStamp := @readLE_of_bytesAt mem t 60 f.timestamp.toNat 8
    (header ++ encodeLE f.revision.toNat 4 ++ encodeLE f.fanSpeed.toNat 4 ++
      encodeLE f.cpuTemp.toNat 4 ++ encodeLE f.systemLoad.toNat 4) []
    (by rw [hTable, List.append_nil]; rfl)
  simp only [List.length_append, length_encodeLE, hHeader, hH] at hFan hTemp hLoad hStamp
  -- each field fits its width
  have hWord : ∀ x : UInt32, x.toNat % 256 ^ 4 = x.toNat :=
    fun x => Nat.mod_eq_of_lt (lt_of_lt_of_eq x.toNat_lt (by norm_num))
  have hDword : f.timestamp.toNat % 256 ^ 8 = f.timestamp.toNat :=
    Nat.mod_eq_of_lt (lt_of_lt_of_eq f.timestamp.toNat_lt (by norm_num))
  refine ⟨?_, ?_, ?_, ?_⟩
  · rw [hFan, hWord]
  · rw [hTemp, hWord]
  · rw [hLoad, hWord]
  · rw [hStamp, hDword]

/- With no runtime functions and a table, a field shows the table's bytes. -/
theorem fieldShow_of_table
    {getFn : ZhwiRuntimeFunctions → Option Nat}
    {offset width : Nat}
    {mem : Mem}
    {st : HwInfo}
    {t : Nat}
    (hFuncs : st.runtimeFuncs = none)
    (hTbl : st.zhwiTbl = some t) :
    fieldShow getFn offset width mem st =
      .ok (toString (readLE mem (t + offset) width) ++ "\n") := by
  simp only [fieldShow, hFuncs, Option.bind_none, hTbl]

theorem cpuTempShow_of_table
    {mem : Mem}
    {st : HwInfo}
    {t : Nat}
    (hFuncs : st.runtimeFuncs = none)
    (hTbl : st.zhwiTbl = some t) :
    cpuTempShow mem st =
      .ok (toString (readLE mem (t + 44) 4 / 10) ++ "." ++
        toString (readLE mem (t + 44) 4 % 10) ++ "\n") := by
  simp only [cpuTempShow, hFuncs, Option.bind_none, hTbl]

/- `read_zhwi_acpi_table` never maps the runtime functions. -/
theorem readZhwiAcpiTable_runtimeFuncs
    (env : HwInfoEnv)
    (mem : Mem)
    (st : HwInfo) :
    (readZhwiAcpiTable env mem st).1.runtimeFuncs = st.runtimeFuncs := by
  simp only [readZhwiAcpiTable]
  split
  · rfl
  · simp only [and_false, if_false]

/- Once the table is found, the read succeeds and ends on the 8 bytes at offset 60. -/
theorem readZhwiAcpiTable_of_find
    {env : HwInfoEnv}
    {mem : Mem}
    {st : HwInfo}
    {t : Nat}
    (hFind : env.acpiGetTable zhwiSignature = some t) :
    (readZhwiAcpiTable env mem st).1.zhwiTbl = some t ∧
      (readZhwiAcpiTable env mem st).2.1 = 0 ∧
      (t + 60, 8) ∈ (readZhwiAcpiTable env mem st).2.2 := by
  simp only [readZhwiAcpiTable, hFind, and_false, if_false]
  exact ⟨trivial, trivial, by simp⟩

/-
  `hw_info_init` returns 0 only once it has read the table and
  made the attribute group; the table and the runtime functions
  are then as the read left them.
-/
theorem hwInfoInit_of_ret_eq_zero
    {env : HwInfoEnv}
    {mem : Mem}
    {st : HwInfo}
    (hRet : (hwInfoInit env mem st).2.1 = 0) :
    (readZhwiAcpiTable env mem st).2.1 = 0 ∧
      (hwInfoInit env mem st).1.sensors = true ∧
      (hwInfoInit env mem st).1.zhwiTbl = (readZhwiAcpiTable env mem st).1.zhwiTbl ∧
      (hwInfoInit env mem st).1.runtimeFuncs = (readZhwiAcpiTable env mem st).1.runtimeFuncs ∧
      (hwInfoInit env mem st).2.2 = (readZhwiAcpiTable env mem st).2.2 := by
  simp only [hwInfoInit] at hRet ⊢
  split_ifs at hRet ⊢ with hRead hKobj hGroup hLink
  · exact absurd hRet hRead
  · simp [ENOMEM] at hRet
  · exact absurd hRet hGroup
  · exact ⟨not_not.mp hRead, rfl, rfl, rfl, rfl⟩
  · exact ⟨not_not.mp hRead, rfl, rfl, rfl, rfl⟩

/-
  For any table in the UEFI driver's layout that ACPI finds,
  once `hw_info_init` returns 0 each sysfs attribute shows the
  field the firmware wrote: fan speed, temperature in degrees
  and tenths, load and time stamp.  Reaching them, the init
  read the 8 bytes past the 60-byte table.
-/
theorem zhwi_sysfs_shows_uefi_fields
    (env : HwInfoEnv)
    (mem : Mem)
    (t : Nat)
    (header : List UInt8)
    (f : ZhwiFields)
    (hHeader : header.length = headerSize)
    (hFind : env.acpiGetTable zhwiSignature = some t)
    (hTable : bytesAt mem t 60 = zhwiBytes header f)
    (hInit : (hwInfoInit env mem HwInfo.boot).2.1 = 0) :
    (hwInfoInit env mem HwInfo.boot).1.sensors = true ∧
      fanSpeedShow mem (hwInfoInit env mem HwInfo.boot).1 =
        .ok (toString f.fanSpeed.toNat ++ "\n") ∧
      cpuTempShow mem (hwInfoInit env mem HwInfo.boot).1 =
        .ok (toString (f.cpuTemp.toNat / 10) ++ "." ++ toString (f.cpuTemp.toNat % 10) ++ "\n") ∧
      systemLoadShow mem (hwInfoInit env mem HwInfo.boot).1 =
        .ok (toString f.systemLoad.toNat ++ "\n") ∧
      timestampShow mem (hwInfoInit env mem HwInfo.boot).1 =
        .ok (toString f.timestamp.toNat ++ "\n") ∧
      (t + (zhwiBytes header f).length, 8) ∈ (hwInfoInit env mem HwInfo.boot).2.2 := by
  obtain ⟨-, hSensors, hTbl, hFuncs, hReads⟩ := hwInfoInit_of_ret_eq_zero hInit
  obtain ⟨hFound, -, hPast⟩ := @readZhwiAcpiTable_of_find env mem HwInfo.boot t hFind
  obtain ⟨hFan, hTemp, hLoad, hStamp⟩ := readLE_zhwiBytes hHeader hTable
  -- the init leaves the table found and no runtime functions
  have hTbl' : (hwInfoInit env mem HwInfo.boot).1.zhwiTbl = some t := hTbl.trans hFound
  have hFuncs' : (hwInfoInit env mem HwInfo.boot).1.runtimeFuncs = none :=
    hFuncs.trans (readZhwiAcpiTable_runtimeFuncs env mem HwInfo.boot)
  have hLen : (zhwiBytes header f).length = 60 := by
    simp [zhwiBytes, hHeader, headerSize]
  refine ⟨hSensors, ?_, ?_, ?_, ?_, ?_⟩
  · rw [fanSpeedShow, fieldShow_of_table hFuncs' hTbl', hFan]
  · rw [cpuTempShow_of_table hFuncs' hTbl', hTemp]
  · rw [systemLoadShow, fieldShow_of_table hFuncs' hTbl', hLoad]
  · rw [timestampShow, fieldShow_of_table hFuncs' hTbl', hStamp]
  · rw [hReads, hLen]
    exact hPast

/- The ACPI tables with the UEFI driver's table at `zhwiAddr`, and sysfs that never fails. -/
def zhwiEnv : HwInfoEnv where
  acpiGetTable := fun sig => if sig = zhwiSignature then some zhwiAddr else none
  ioremap := fun _ => none
  kobjectOk := true
  groupRet := 0
  efiKobj := true
  linkRet := 0

theorem zhwi_sysfs_shows_uefi_fields_mZhwiTable :
    (zhwiTable.take headerSize).length = headerSize ∧
      zhwiEnv.acpiGetTable zhwiSignature = some zhwiAddr ∧
      bytesAt zhwiMem zhwiAddr 60 = zhwiBytes (zhwiTable.take headerSize) mZhwiFields ∧
      (hwInfoInit zhwiEnv zhwiMem HwInfo.boot).2.1 = 0 ∧
      fanSpeedShow zhwiMem (hwInfoInit zhwiEnv zhwiMem HwInfo.boot).1 =
        .ok (toString mZhwiFields.fanSpeed.toNat ++ "\n") := by
  have hHeader : (zhwiTable.take headerSize).length = headerSize := by decide
  have hFind : zhwiEnv.acpiGetTable zhwiSignature = some zhwiAddr := by decide
  have hTable : bytesAt zhwiMem zhwiAddr 60 = zhwiBytes (zhwiTable.take headerSize) mZhwiFields := by
    decide
  have hInit : (hwInfoInit zhwiEnv zhwiMem HwInfo.boot).2.1 = 0 := by decide
  exact ⟨hHeader, hFind, hTable, hInit,
    (zhwi_sysfs_shows_uefi_fields zhwiEnv zhwiMem zhwiAddr _ mZhwiFields hHeader hFind hTable
      hInit).2.1⟩

end Acpi

end OsHomework
