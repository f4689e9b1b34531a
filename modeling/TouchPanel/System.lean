/-!
This module contains the errors of the operating system that reach a reader: a numbered error, bytes
that are no text, or a text that is no path.
-/

namespace TouchPanel

inductive SystemFault where
  | numbered (number : Int)
  | notText
  /-- A path that no system takes, since it holds a zero. -/
  | zeroInPath
  deriving DecidableEq, Repr

namespace SystemFault

def describe : Int → String
  | 1 => "Operation not permitted"
  | 2 => "No such file or directory"
  | 4 => "Interrupted system call"
  | 5 => "Input/output error"
  | 6 => "No such device or address"
  | 9 => "Bad file descriptor"
  | 11 => "Resource temporarily unavailable"
  | 12 => "Cannot allocate memory"
  | 13 => "Permission denied"
  | 16 => "Device or resource busy"
  | 17 => "File exists"
  | 19 => "No such device"
  | 20 => "Not a directory"
  | 21 => "Is a directory"
  | 22 => "Invalid argument"
  | 25 => "Inappropriate ioctl for device"
  | 28 => "No space left on device"
  | 30 => "Read-only file system"
  | 36 => "File name too long"
  | 40 => "Too many levels of symbolic links"
  | number => s!"Unknown error {number}"

def message : SystemFault → String
  | numbered number => s!"{describe number} (os error {number})"
  | notText => "stream did not contain valid UTF-8"
  | zeroInPath => "file name contained an unexpected NUL byte"

def missing : SystemFault := .numbered 2

def occupied : SystemFault := .numbered 17

def notFolder : SystemFault := .numbered 20

def isFolder : SystemFault := .numbered 21

def notDevice : SystemFault := .numbered 25

def noSpace : SystemFault := .numbered 28

def tooLong : SystemFault := .numbered 36

end SystemFault

end TouchPanel
