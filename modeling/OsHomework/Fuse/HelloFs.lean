import OsHomework.Fuse.GptFs

/-
  `HelloFS` of `filesystem/fuse/hello_fuse.py`: a root holding
  one file, `/hello.txt`, whose bytes live in `self.hello`.

  Paths are compared whole, with no parsing; `read` of any
  other path returns `b''`, the other calls raise `ENOENT`.

  Main declarations:
    * `HelloFs`, `HelloFs.init`
    * `HelloFs.getattr`, `HelloFs.readdir`, `HelloFs.read`,
      `HelloFs.openFile`, `HelloFs.write`, `HelloFs.truncate`
-/

------------------------------------------------------------
-- The File and Its Calls
------------------------------------------------------------

namespace OsHomework

namespace Fuse

/- `self.hello` -/
structure HelloFs where
  hello : List UInt8

/- The path of the one file. -/
def helloPath : List Char := "/hello.txt".toList

/- `"Hello, world!\n".encode()` -/
def helloInit : List UInt8 :=
  [72, 101, 108, 108, 111, 44, 32, 119, 111, 114, 108, 100, 33, 10]

/- `HelloFS()` -/
def HelloFs.init : HelloFs :=
  ⟨helloInit⟩

/- `getattr(path, fh)`: `0o755 | 0o040000` for the root, `0o666 | 0o100000` for the file. -/
def HelloFs.getattr
    (fs : HelloFs)
    (path : List Char) : Except Nat Attr :=
  if path = "/".toList then .ok ⟨0o755 ||| 0o040000, 2, none⟩
  else if path = helloPath then .ok ⟨0o666 ||| 0o100000, 1, some fs.hello.length⟩
  else .error ENOENT

/- `readdir(path, fh)`, the same listing for every path. -/
def HelloFs.readdir
    (_fs : HelloFs)
    (_path : List Char) : List (List Char) :=
  [".".toList, "..".toList, "hello.txt".toList]

/- `read(path, size, offset, fh)`: `self.hello[offset:offset+size]`. -/
def HelloFs.read
    (fs : HelloFs)
    (path : List Char)
    (size offset : Nat) : List UInt8 :=
  if path = helloPath then (fs.hello.drop offset).take size
  else []

/- `open(path, flags)` -/
def HelloFs.openFile
    (_fs : HelloFs)
    (path : List Char) : Except Nat Nat :=
  if path ≠ helloPath then .error ENOENT else .ok 0

/- `write(path, data, offset, fh)`: `self.hello[:offset] + data + self.hello[offset + len(data):]`. -/
def HelloFs.write
    (fs : HelloFs)
    (path : List Char)
    (data : List UInt8)
    (offset : Nat) : Except Nat (HelloFs × Nat) :=
  if path = helloPath then
    .ok (⟨fs.hello.take offset ++ data ++ fs.hello.drop (offset + data.length)⟩,
      data.length)
  else .error ENOENT

/- `truncate(path, length, fh)` -/
def HelloFs.truncate
    (fs : HelloFs)
    (path : List Char)
    (length : Nat) : Except Nat (HelloFs × Nat) :=
  if path = helloPath then
    if length < fs.hello.length then .ok (⟨fs.hello.take length⟩, length)
    else if length > fs.hello.length then
      .ok (⟨fs.hello ++ List.replicate (length - fs.hello.length) 0⟩, length)
    else .ok (fs, length)
  else .error ENOENT

end Fuse

end OsHomework
