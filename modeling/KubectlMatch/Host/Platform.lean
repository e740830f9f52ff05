/-!
# Platforms

A platform is an operating system and a processor architecture, under the names that release
artifacts carry.  `ofTarget` translates the names under which a program knows its own target.
-/
namespace KubectlMatch

structure Platform where
  os : String
  arch : String
deriving DecidableEq

namespace Platform

def osName : String → String
  | "macos" => "darwin"
  | os => os

def archName : String → String
  | "x86_64" => "amd64"
  | "aarch64" => "arm64"
  | "x86" => "386"
  | "powerpc64" => "ppc64le"
  | arch => arch

def ofTarget (os arch : String) : Platform := ⟨osName os, archName arch⟩

/-- The name of the directory that holds a platform's binaries. -/
def key (p : Platform) : String := p.os ++ "-" ++ p.arch

def exeSuffix (p : Platform) : String := if p.os = "windows" then ".exe" else ""

def current : Platform := ofTarget "linux" "x86_64"

end Platform

end KubectlMatch
