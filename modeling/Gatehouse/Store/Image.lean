import Gatehouse.Store.Schema

/-! # Files that hold a database

A database file starts with a header: a signature, the size of a page, versions and counts, all
numbers with the most significant byte first. Behind the header, on the first page, stands the root
of the schema. An image is taken for a database if its header is sound, and as far as it is one, it
is a database without tables. Its version can be read then, but if it must not be written or its
free space is in disorder, the first change of the schema fails.
-/

namespace Gatehouse.Store

/-- The bytes of a file. Zeros are read behind their end. -/
structure Image where
  bytes : List UInt8
deriving DecidableEq, Repr

namespace Image

def ofText (s : String) : Image := ⟨s.toUTF8.toList⟩

def byte (image : Image) (place : Nat) : Nat := (image.bytes.getD place 0).toNat

/-- The number in so many bytes from a place on. -/
def number (image : Image) (place width : Nat) : Nat :=
  (List.range width).foldl (fun n i => n * 256 + image.byte (place + i)) 0

/-- A file of one byte is as good as an empty one. -/
def isBlank (image : Image) : Bool := image.bytes.length ≤ 1

/-- The sixteen bytes at the start. -/
def signature : List Nat := "SQLite format 3\x00".toList.map Char.toNat

def isSigned (image : Image) : Bool := (List.range 16).map image.byte = signature

/-- The size of a page is a power of two; the largest is written as one. -/
def pageSize (image : Image) : Nat := image.byte 16 * 256 + image.byte 17 * 65536

/-- The versions that a writer and a reader must know. -/
def writeVersion (image : Image) : Nat := image.byte 18

def readVersion (image : Image) : Nat := image.byte 19

/-- Whether changes are kept in a log beside the file. If not, opening the file changes that. -/
def isLogged (image : Image) : Bool := image.readVersion = 2

def isReadOnly (image : Image) : Bool := 2 < image.writeVersion

def pageSizes : List Nat := [512, 1024, 2048, 4096, 8192, 16384, 32768, 65536]

/-- The bytes of a page that are in use: some at its end may be reserved. -/
def usableSize (image : Image) : Nat := image.pageSize - image.byte 20

/-- The pages of the file, the last one perhaps cut. -/
def pages (image : Image) : Nat := (image.bytes.length + image.pageSize - 1) / image.pageSize

/-- The pages that the header counts. A count that was not made at the last change is none. -/
def countedPages (image : Image) : Nat :=
  if image.number 24 4 = image.number 92 4 then image.number 28 4 else 0

def freePages (image : Image) : Nat := image.number 36 4

/-- The largest root page, if the file keeps track of it. -/
def largestRoot (image : Image) : Nat := image.number 52 4

/-- The version of the schema, with sign. -/
def version (image : Image) : Int :=
  let n := image.number 60 4
  if n < UInt32.size / 2 then n else n - UInt32.size

/-- Whether the root is a leaf without rows. -/
def isRootEmpty (image : Image) : Bool := image.byte 100 = 13 && image.number 103 2 = 0

/-- Where the free space of the first page ends, fragments included. Zero stands for the largest
size. -/
def freeEnd (image : Image) : Nat :=
  let start := image.number 105 2
  (if start = 0 then 65536 else start) + image.byte 107

/-- What can be wrong with an image, in the order of the checks. -/
def flaws (image : Image) : List (Bool × DatabaseFault) :=
  [(!image.isSigned, .notADatabase),
    (2 < image.readVersion, .notADatabase),
    (image.number 21 3 ≠ 0x402020, .notADatabase),
    (image.pageSize ∉ pageSizes, .notADatabase),
    (image.pages < image.countedPages, .malformed),
    (image.usableSize < 480, .notADatabase),
    (4 < image.byte 47, .unknownFormat),
    (!image.isRootEmpty, .malformed),
    (!image.isLogged && image.isReadOnly, .readOnly),
    (!image.isLogged && image.largestRoot ≠ 0 && (1 < image.pages || image.freePages ≠ 0),
      .malformed)]

/-- The database that an image holds. -/
def database (image : Image) : Except DatabaseFault Database :=
  if image.isBlank then .ok .blank
  else Tables.unlessBroken image.flaws { Database.blank with version := image.version }

/-- Whether the free space is in disorder. -/
def isJammed (image : Image) : Bool :=
  image.number 101 2 ≠ 0 || image.freeEnd < 108 || image.usableSize < image.freeEnd ||
    image.freePages ≠ 0 || 1 < image.largestRoot

/-- Why the schema cannot be changed. -/
def writeFault? (image : Image) : Option DatabaseFault :=
  if image.isBlank then none
  else if image.isReadOnly then some .readOnly
  else if image.isJammed then some .malformed
  else none

/-- Open the database of an image and bring it up to date. -/
def openDatabase (image : Image) : Except StoreFault Database := do
  let d ← image.database.mapError .database
  match d.version, image.writeFault? with
  | 0, some fault => .error (.migration (.stepFailed Step.initial.name fault))
  | _, _ =>
    match Database.migrate.apply d with
    | (.ok (), d) => .ok d
    | (.error fault, _) => .error fault

end Image

end Gatehouse.Store
