/-!
Texts with templates that fit them, as examples of each engine.
-/
namespace TemplateBench.Example

/-- A text of whole lines. -/
def ofLines (ls : List String) : String := String.join (ls.map (· ++ "\n"))

/-! ## Interfaces -/

/-- A listing of interfaces. -/
def interfaceListing : String := ofLines [
  "Interface                  IP-Address      OK? Method Status                Protocol",
  "FastEthernet0/0            192.168.1.1     YES NVRAM  up                    up",
  "FastEthernet0/1            unassigned      YES NVRAM  administratively down down",
  "FastEthernet0/2            192.168.2.1     YES NVRAM  up                    up"]

def interfaceMachine : String := ofLines [
  "Value Interface (\\S+)",
  "Value IP_Address (\\S+)",
  "Value OK (\\S+)",
  "Value Method (\\S+)",
  "Value Status (.+?)",
  "Value Protocol (\\S+)",
  "",
  "Start",
  "  ^Interface\\s+IP-Address",
  "  ^$\x7bInterface\x7d\\s+$\x7bIP_Address\x7d\\s+$\x7bOK\x7d\\s+$\x7bMethod\x7d\\s+$\x7bStatus\x7d\\s+$\x7bProtocol\x7d\\s*$$ -> Record"]

def interfacePattern : String := ofLines [
  "",
  "<group name=\"interfaces\">",
  "\x7b\x7b interface \x7d\x7d \x7b\x7b ip \x7d\x7d \x7b\x7b ok | re(\"YES|NO\") \x7d\x7d \x7b\x7b method \x7d\x7d \x7b\x7b status | ORPHRASE \x7d\x7d \x7b\x7b protocol \x7d\x7d",
  "</group>"]

/-! ## Neighbors -/

/-- Neighbors, one a line. -/
def neighborTable : String := ofLines [
  "Capability Codes: R - Router, T - Trans Bridge, B - Source Route Bridge",
  "                  S - Switch, H - Host, I - IGMP, r - Repeater, P - Phone",
  "",
  "Device ID        Local Intrfce     Holdtme    Capability  Platform  Port ID",
  "sw-core-01       Gig 0/1           155         S I        WS-C3850  Gig 1/0/1",
  "rtr-edge-02      Gig 0/2           132         R S I      ISR4451   Gig 0/0/0",
  "ap-floor3        Gig 0/3           120         T B I      AIR-AP28  Gig 0"]

/-- Neighbors, one a block of lines. -/
def neighborBlocks : String := ofLines [
  "-------------------------",
  "Device ID: sw-core-01",
  "Entry address(es):",
  "  IP address: 10.0.0.2",
  "Platform: cisco WS-C3850-48P,  Capabilities: Switch IGMP",
  "Interface: GigabitEthernet0/1,  Port ID (outgoing port): GigabitEthernet1/0/1",
  "Holdtime : 155 sec",
  "",
  "Version :",
  "Cisco IOS Software, Catalyst L3 Switch Software (CAT3K_CAA-UNIVERSALK9-M), Version 16.12.4, RELEASE SOFTWARE (fc5)",
  "",
  "-------------------------",
  "Device ID: rtr-edge-02",
  "Entry address(es):",
  "  IP address: 10.0.0.6",
  "Platform: cisco ISR4451-X/K9,  Capabilities: Router Switch IGMP",
  "Interface: GigabitEthernet0/2,  Port ID (outgoing port): GigabitEthernet0/0/0",
  "Holdtime : 132 sec",
  "",
  "Version :",
  "Cisco IOS XE Software, Version 17.03.04a",
  ""]

def neighborTableMachine : String := ofLines [
  "Value NEIGHBOR (\\S+)",
  "Value LOCAL_INTERFACE (\\S+\\s\\S+)",
  "Value HOLDTIME (\\d+)",
  "Value CAPABILITY ((?:[RTBSHIrPDCM]\\s)*[RTBSHIrPDCM])",
  "Value PLATFORM (\\S+)",
  "Value NEIGHBOR_INTERFACE (.+?)",
  "",
  "Start",
  "  ^Device\\s+ID -> Neighbors",
  "",
  "Neighbors",
  "  ^$\x7bNEIGHBOR\x7d\\s+$\x7bLOCAL_INTERFACE\x7d\\s+$\x7bHOLDTIME\x7d\\s+$\x7bCAPABILITY\x7d\\s+$\x7bPLATFORM\x7d\\s+$\x7bNEIGHBOR_INTERFACE\x7d\\s*$$ -> Record"]

def neighborBlocksMachine : String := ofLines [
  "Value NEIGHBOR (\\S+)",
  "Value MGMT_ADDRESS (\\d+\\.\\d+\\.\\d+\\.\\d+)",
  "Value PLATFORM (.+?)",
  "Value CAPABILITIES (.+?)",
  "Value LOCAL_INTERFACE (\\S+)",
  "Value NEIGHBOR_INTERFACE (\\S+)",
  "Value HOLDTIME (\\d+)",
  "Value SOFTWARE_VERSION (.+)",
  "",
  "Start",
  "  ^Device ID: $\x7bNEIGHBOR\x7d",
  "  ^\\s+IP address: $\x7bMGMT_ADDRESS\x7d",
  "  ^Platform: $\x7bPLATFORM\x7d,\\s+Capabilities: $\x7bCAPABILITIES\x7d\\s*$$",
  "  ^Interface: $\x7bLOCAL_INTERFACE\x7d,\\s+Port ID \\(outgoing port\\): $\x7bNEIGHBOR_INTERFACE\x7d",
  "  ^Holdtime\\s*:\\s*$\x7bHOLDTIME\x7d",
  "  ^Version\\s*: -> Version",
  "",
  "Version",
  "  ^$\x7bSOFTWARE_VERSION\x7d -> Record Start"]

def neighborTablePattern : String := ofLines [
  "",
  "<group name=\"neighbors\">",
  "\x7b\x7b neighbor \x7d\x7d \x7b\x7b local_interface | ORPHRASE \x7d\x7d \x7b\x7b holdtime | DIGIT | to_int \x7d\x7d \x7b\x7b capability | ORPHRASE \x7d\x7d \x7b\x7b platform \x7d\x7d \x7b\x7b neighbor_interface | ORPHRASE \x7d\x7d",
  "</group>"]

def neighborBlocksPattern : String := ofLines [
  "",
  "<group name=\"neighbors\">",
  "Device ID: \x7b\x7b neighbor \x7d\x7d",
  "  IP address: \x7b\x7b mgmt_address | IP \x7d\x7d",
  "Platform: \x7b\x7b platform | ORPHRASE \x7d\x7d,  Capabilities: \x7b\x7b capabilities | ORPHRASE \x7d\x7d",
  "Interface: \x7b\x7b local_interface \x7d\x7d,  Port ID (outgoing port): \x7b\x7b neighbor_interface \x7d\x7d",
  "Holdtime : \x7b\x7b holdtime | DIGIT | to_int \x7d\x7d sec",
  "</group>"]

/-! ## Rendering -/

/-- Interfaces as a context for rendering. -/
def interfaceContext : String := ofLines [
  "hostname: edge-rtr-01",
  "interfaces:",
  "  - name: GigabitEthernet0/0",
  "    description: Uplink to core",
  "    ip: 10.0.0.1",
  "    mask: 255.255.255.252",
  "  - name: GigabitEthernet0/1",
  "    description: User LAN",
  "    ip: 192.168.10.1",
  "    mask: 255.255.255.0"]

def interfaceText : String := ofLines [
  "hostname \x7b\x7b hostname \x7d\x7d",
  "!",
  "\x7b% for intf in interfaces %\x7d",
  "interface \x7b\x7b intf.name \x7d\x7d",
  " description \x7b\x7b intf.description \x7d\x7d",
  " ip address \x7b\x7b intf.ip \x7d\x7d \x7b\x7b intf.mask \x7d\x7d",
  " no shutdown",
  "!",
  "\x7b% endfor %\x7d"]

end TemplateBench.Example
