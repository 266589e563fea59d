import NativeVariants.Toml.Printer

/-!
# Formats of settings

How settings are held in files. The program uses TOML; what it does to settings does not depend on it.
-/

namespace NativeVariants.Settings

structure Format where
  /-- The settings that a text holds, unless its syntax is wrong. -/
  decode? : String → Option Table
  encode : Table → Except Failure String

namespace Format

def toml : Format where
  decode? := Toml.parse?
  encode := Toml.render

end Format

end NativeVariants.Settings
