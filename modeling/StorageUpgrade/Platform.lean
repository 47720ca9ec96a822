import StorageUpgrade.Json.Reader

/-!
# Platforms

A run builds on parts that this library does not decide: the reader of configurations, the drawing
of tables, the terminal that its own messages are written to, the hash that places namespaces, and
the room that reading a document takes.  A platform gives all of them, and a run takes one as it
takes its files.
-/

namespace StorageUpgrade

/-- What a run builds on. -/
structure Platform where
  /-- Reads a document in the relaxed form, which configurations have. -/
  readRelaxed : String → Except Json.ReadFault Json
  /-- Draws a table of some rows below the titles of its columns. -/
  drawTable : List String → List (List Json) → Except Json.Misuse String
  /-- What the terminal writes for a message, in which marks between brackets say how it looks; a
  message whose marks make no sense is refused for a reason. -/
  render : String → Except String String
  /-- The hash of some bytes. -/
  hash : List UInt8 → List UInt8
  /-- The number of lists and objects of a layout that may be open at once while it is read. -/
  levels : Nat

end StorageUpgrade
