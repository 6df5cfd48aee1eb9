import Mieru.Net.IP

/-! The SOCKS5 package's wire constants, the address spec and request it parses, and the
errors its functions return. A Go string is a byte sequence, so `AddrSpec.FQDN` is kept as its
bytes. `Error` has one constructor per error value the package returns or passes on: `io.EOF`,
`io.ErrUnexpectedEOF`, `unrecognizedAddrType`, the three `stderror` values it uses, an error of a
collaborator with its concrete Go type and `Error()` text, and `fmt.Errorf` without and with
`%w`. -/

namespace Mieru.Socks5
open Net

def connectCommand : UInt8 := 1
def bindCommand : UInt8 := 2
def associateCommand : UInt8 := 3
def ipv4Address : UInt8 := 1
def fqdnAddress : UInt8 := 3
def ipv6Address : UInt8 := 4

def successReply : UInt8 := 0
def networkUnreachable : UInt8 := 3
def hostUnreachable : UInt8 := 4
def connectionRefused : UInt8 := 5
def commandNotSupported : UInt8 := 7

/-- Modelled from the spec: `socks5Version` is declared elsewhere in the package. -/
def socks5Version : UInt8 := 5

structure AddrSpec where
  fqdn : List UInt8
  ip : IP
  port : Int
deriving DecidableEq, Repr

/-- `AddrSpec.Address`: the dial string, from the IP's text if there is an IP, else the FQDN. -/
def AddrSpec.address (a : AddrSpec) : List UInt8 :=
  if a.ip.length ≠ 0 then joinHostPort a.ip.string (itoa a.port)
  else joinHostPort a.fqdn (itoa a.port)

structure Request where
  version : UInt8
  command : UInt8
  destAddr : AddrSpec
deriving DecidableEq, Repr

def isLocalhostDest (req : Request) : Bool :=
  req.destAddr.fqdn == ascii "localhost" || req.destAddr.ip.isLoopback

inductive Arg where
  | uint8 (b : UInt8)
  | bytes (b : List UInt8)
  | string (s : List UInt8)
  | addrSpec (a : AddrSpec)
deriving DecidableEq, Repr

inductive Error where
  | eof
  | unexpectedEOF
  | unrecognizedAddrType
  | noEnoughData
  | invalidArgument
  | unsupported
  | external (goType text : String)
  | errorf (format : String) (args : List Arg)
  | wrapf (format : String) (args : List Arg) (wrapped : Error)
deriving DecidableEq, Repr

/-- The concrete type `atomic.Value.Store` compares; `stderror` values are `errors.New`'s. -/
def Error.goType : Error → String
  | .eof | .unexpectedEOF | .unrecognizedAddrType | .noEnoughData | .invalidArgument
  | .unsupported | .errorf _ _ => "*errors.errorString"
  | .external goType _ => goType
  | .wrapf _ _ _ => "*fmt.wrapError"

end Mieru.Socks5
