import PandaGen.Kernel.Session

/-!
# Loading programs

The PEX format and `ExecutableLoader::load` of `sim_kernel/src/executable.rs`, and `load_executable` and
`map_program_sections` of `sim_kernel/src/lib.rs`. The state of the parser is the offset of the next byte.
-/

namespace PandaGen.Kernel

open Lib

/-! ## Executables -/

/-- "PEX\0" -/
def pexMagic : Nat := 0x50455800

def pexVersion : Nat := 1

inductive SectionType where
  | text
  | data
  | bss
  deriving DecidableEq

structure SectionPerms where
  read : Bool
  write : Bool
  execute : Bool

structure Section where
  sectionType : SectionType
  size : Nat
  permissions : SectionPerms
  data : List UInt8

structure Executable where
  entryPoint : Nat
  sections : List Section

inductive ExecutableError where
  | invalidMagic (magic : Nat)
  | unsupportedVersion (version : Nat)
  | invalidSectionType (val : Nat)
  | sectionSizeMismatch (expected actual : Nat)
  | fileTooShort
  | invalidEntryPoint
  | dataTooLarge
  | invalidAlignment
  deriving DecidableEq

def SectionType.fromU32 : Nat → Except ExecutableError SectionType
  | 1 => .ok .text
  | 2 => .ok .data
  | 3 => .ok .bss
  | val => .error (.invalidSectionType val)

namespace SectionPerms

def fromU32 (val : Nat) : SectionPerms := ⟨val &&& 1 ≠ 0, val &&& 2 ≠ 0, val &&& 4 ≠ 0⟩

def toMemoryPerms (p : SectionPerms) : MemoryPerms :=
  if p.read && p.write && p.execute then ⟨true, true, true⟩
  else if p.read && p.write then ⟨true, true, false⟩
  else if p.read && p.execute then ⟨true, false, true⟩
  else if p.read then ⟨true, false, false⟩
  else ⟨false, false, false⟩

end SectionPerms

namespace Executable

/-! ## Parsing -/

/-- `offset += n` -/
def advance (n : Nat) : Proc Nat ExecutableError Unit := do
  set (← Proc.okOrPanic (checkedAdd (← get) n))

def peek (data : Slice) (n : Nat) : Proc Nat ExecutableError Nat := do
  Proc.okOrPanic (data.fromLeBytes (← get) n)

/-- `if data.len() < offset + n` -/
def ensure (data : Slice) (n : Nat) : Proc Nat ExecutableError Unit := do
  let stop ← Proc.okOrPanic (checkedAdd (← get) n)
  Proc.failIf (data.len < stop) (.err .fileTooShort)

def readData (data : Slice) (sectionType : SectionType) (size : Nat) : Proc Nat ExecutableError (List UInt8) := do
  if sectionType = .bss then return []
  ensure data size
  let offset ← get
  let bytes ← Proc.okOrPanic (data.range offset (offset + size))
  advance size
  return bytes

def readSection (data : Slice) : Proc Nat ExecutableError Section := do
  ensure data 16
  let sectionType ← Proc.ofExcept (SectionType.fromU32 (← peek data 4))
  advance 4
  let size ← peek data 8
  advance 8
  let permissions := SectionPerms.fromU32 (← peek data 4)
  advance 4
  let bytes ← readData data sectionType size
  return ⟨sectionType, size, permissions, bytes⟩

def readSections (data : Slice) : Nat → Proc Nat ExecutableError (List Section)
  | 0 => return []
  | count + 1 => do
    let first ← readSection data
    let rest ← readSections data count
    return first :: rest

def readHeader (data : Slice) : Proc Nat ExecutableError Nat := do
  Proc.failIf (data.len < 16) (.err .fileTooShort)
  let magic ← peek data 4
  Proc.failIf (magic ≠ pexMagic) (.err (.invalidMagic magic))
  advance 4
  let version ← peek data 4
  Proc.failIf (version ≠ pexVersion) (.err (.unsupportedVersion version))
  advance 4
  let entryPoint ← peek data 8
  advance 8
  Proc.failIf (entryPoint = 0) (.err .invalidEntryPoint)
  return entryPoint

def readExecutable (data : Slice) : Proc Nat ExecutableError Executable := do
  let entryPoint ← readHeader data
  ensure data 4
  let sectionCount ← peek data 4
  advance 4
  let sections ← readSections data sectionCount
  return ⟨entryPoint, sections⟩

def parse (data : Slice) : Option (Except ExecutableError Executable) :=
  ((readExecutable data).call 0).map Prod.fst

/-! ## Validation -/

def validateSection (s : Section) : Except ExecutableError Unit :=
  if s.sectionType ≠ .bss ∧ s.data.length ≠ s.size then .error (.sectionSizeMismatch s.size s.data.length)
  else if s.sectionType = .bss ∧ s.data ≠ [] then .error .dataTooLarge
  else if s.size % 4096 ≠ 0 then .error .invalidAlignment
  else .ok ()

def validate (exe : Executable) : Except ExecutableError Unit := do
  if exe.entryPoint = 0 then throw .invalidEntryPoint
  exe.sections.forM validateSection

end Executable

/-! ## Debug texts -/

def showBool : Bool → String
  | true => "true"
  | false => "false"

def AddressSpaceId.debug (id : AddressSpaceId) : String := "AddressSpaceId(" ++ id.uuid.text ++ ")"

def MemoryRegionId.debug (id : MemoryRegionId) : String := "MemoryRegionId(" ++ id.uuid.text ++ ")"

def MemoryAccessType.debug : MemoryAccessType → String
  | .read => "Read"
  | .write => "Write"
  | .execute => "Execute"

def MemoryPerms.debug (p : MemoryPerms) : String :=
  "MemoryPerms \x7b read: " ++ showBool p.read ++ ", write: " ++ showBool p.write ++
    ", execute: " ++ showBool p.execute ++ " \x7d"

def MemoryError.debug : MemoryError → String
  | .addressSpaceNotFound id => "AddressSpaceNotFound(" ++ AddressSpaceId.debug id ++ ")"
  | .regionNotFound id => "RegionNotFound(" ++ MemoryRegionId.debug id ++ ")"
  | .permissionDenied regionId accessType permissions =>
    "PermissionDenied \x7b region_id: " ++ MemoryRegionId.debug regionId ++
      ", access_type: " ++ accessType.debug ++ ", permissions: " ++ permissions.debug ++ " \x7d"
  | .invalidRegionSize size => "InvalidRegionSize(" ++ toString size ++ ")"
  | .regionOverlap => "RegionOverlap"
  | .budgetExhausted requested available =>
    "BudgetExhausted \x7b requested: " ++ toString requested ++ ", available: " ++ toString available ++ " \x7d"
  | .crossSpaceAccess regionId ownerSpace accessorSpace =>
    "CrossSpaceAccess \x7b region_id: " ++ MemoryRegionId.debug regionId ++
      ", owner_space: " ++ AddressSpaceId.debug ownerSpace ++
      ", accessor_space: " ++ AddressSpaceId.debug accessorSpace ++ " \x7d"
  | .noCapability id => "NoCapability(" ++ MemoryRegionId.debug id ++ ")"

/-! ## Programs -/

structure LoadedProgram where
  taskId : TaskId
  executionId : ExecutionId
  entryPoint : Nat
  sections : List Section

inductive LoadError where
  | parseError (error : ExecutableError)
  | kernelError (error : KernelError)
  | taskCreationFailed

def SectionType.backing : SectionType → MemoryBacking
  | .text => .anonymous
  | .data => .anonymous
  | .bss => .anonymous

namespace SimulatedKernel

/-- The loader does not know the execution of its task, and draws one. -/
def load (ids : SpawnIds) (executionId : ExecutionId) (name : String) (data : Slice) :
    Proc SimulatedKernel LoadError LoadedProgram := do
  let executable ← Proc.ofExcept ((← Proc.okOrPanic (Executable.parse data)).mapError .parseError)
  Proc.ofExcept (executable.validate.mapError .parseError)
  let taskId ← (spawnTask ids ⟨name, []⟩).mapErr .kernelError
  return ⟨taskId, executionId, executable.entryPoint, executable.sections⟩

def loadExecutable (ids : SpawnIds) (executionId : ExecutionId) (name : String) (data : Slice) :
    Proc SimulatedKernel LoadError LoadedProgram := do
  let program ← load ids executionId name data
  match (← get).getTaskIdentity program.taskId with
  | some executionId => return { program with executionId }
  | none => return program

def mapSection (spaceCap : AddressSpaceCap) (executionId : ExecutionId) (regionId : MemoryRegionId) (s : Section) :
    Proc SimulatedKernel LoadError Unit := do
  let _ ← (allocateRegion regionId spaceCap s.size s.permissions.toMemoryPerms s.sectionType.backing
    executionId).mapErr fun e => .kernelError (.spawnFailed ("Failed to allocate region: " ++ e.debug))

def mapSections (spaceCap : AddressSpaceCap) (executionId : ExecutionId) :
    List (MemoryRegionId × Section) → Proc SimulatedKernel LoadError Unit
  | [] => return
  | (regionId, s) :: rest => do
    mapSection spaceCap executionId regionId s
    mapSections spaceCap executionId rest

def mapProgramSections (spaceId : AddressSpaceId) (regionIds : Nat → MemoryRegionId) (program : LoadedProgram) :
    Proc SimulatedKernel LoadError Unit := do
  let spaceCap ← (createAddressSpace spaceId program.executionId).mapErr fun e =>
    .kernelError (.spawnFailed ("Failed to create address space: " ++ e.debug))
  mapSections spaceCap program.executionId (program.sections.zipIdx.map fun (s, i) => (regionIds i, s))

end SimulatedKernel

end PandaGen.Kernel
