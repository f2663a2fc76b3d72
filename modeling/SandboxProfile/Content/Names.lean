/-! The names that the content library lets through: kernel state, device
properties, preference domains and graphics clients. -/
namespace SandboxProfile.Content

def systemSubpaths : List String :=
  ["/System", "/usr/lib", "/Library/GPUBundles"]

def sysctlNames : List String :=
  ["kern.ostype", "kern.osversion", "kern.osrelease", "kern.version", "kern.tcsm_available",
    "kern.tcsm_enable", "kern.hostname", "kern.hv_vmm_present", "kern.osproductversion",
    "hw.machine", "hw.model", "hw.ncpu", "hw.activecpu", "hw.byteorder", "hw.pagesize_compat",
    "hw.logicalcpu_max", "hw.physicalcpu_max", "hw.busfrequency_compat", "hw.busfrequency_max",
    "hw.cpufrequency", "hw.cpufrequency_compat", "hw.cpufrequency_max", "hw.l2cachesize",
    "hw.l3cachesize", "hw.cachelinesize", "hw.cachelinesize_compat", "hw.tbfrequency_compat",
    "hw.vectorunit", "hw.optional.sse2", "hw.optional.sse3", "hw.optional.sse4_1",
    "hw.optional.sse4_2", "hw.optional.avx1_0", "hw.optional.avx2_0", "machdep.cpu.vendor",
    "machdep.cpu.family", "machdep.cpu.model", "machdep.cpu.stepping", "debug.intel.gstLevelGST",
    "debug.intel.gstLoaderControl"]

def deviceProperties : List String :=
  ["board-id", "class-code", "vendor-id", "device-id", "IODVDBundleName", "IOGLBundleName",
    "IOGVACodec", "IOGVAHEVCDecode", "IOGVAHEVCEncode", "IOGVAXDecode",
    "IOAVDAV1DecodeCapabilities", "IOPCITunnelled", "IOVARendererID", "MetalPluginName",
    "MetalPluginClassName"]

/-- The shared domains after the first, which is that of any application. -/
def otherPreferenceDomains : List String :=
  ["com.apple.ATS", "com.apple.CoreGraphics", "com.apple.DownloadAssessment",
    "com.apple.HIToolbox", "com.apple.LaunchServices", "com.apple.MultitouchSupport",
    "com.apple.QTKit", "com.apple.ServicesMenu.Services", "com.apple.WebFoundation",
    "com.apple.avfoundation", "com.apple.coremedia", "com.apple.crypto",
    "com.apple.driver.AppleBluetoothMultitouch.mouse",
    "com.apple.driver.AppleBluetoothMultitouch.trackpad", "com.apple.driver.AppleHIDMouse",
    "com.apple.lookup.shared", "com.apple.mediaaccessibility", "com.apple.networkConnect",
    "com.apple.security", "com.apple.security.common", "com.apple.security.revocation",
    "com.apple.speech.voice.prefs", "com.apple.systemsound", "com.apple.universalaccess",
    "edu.mit.Kerberos", "pbs"]

def graphicsUserClients : List String :=
  ["AGPMClient", "AppleGraphicsControlClient", "AppleGraphicsPolicyClient",
    "AppleIntelMEUserClient", "AppleMGPUPowerControlClient", "AppleSNBFBUserClient",
    "IOAccelerationUserClient", "IOFramebufferSharedUserClient", "IOHIDParamUserClient",
    "IOSurfaceRootUserClient", "IOSurfaceSendRight", "RootDomainUserClient"]

def legacyShmNames : List String :=
  ["^/tmp/com.apple.csseed:", "^CFPBS:", "^AudioIO"]

end SandboxProfile.Content
